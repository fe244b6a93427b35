namespace SchemaDdl

def IsExtension (s : String) : Prop :=
  s.toList.head? = some '.' ∧ '/' ∉ s.toList ∧ '\\' ∉ s.toList

instance (s : String) : Decidable (IsExtension s) := inferInstanceAs (Decidable (_ ∧ _ ∧ _))

structure Options where
  extension : String
  /-- A type without a column type stops the run. -/
  strict : Bool
  maxFileSize : Nat
  maxLineLength : Nat
  isExtension : IsExtension extension
  maxFileSize_pos : 0 < maxFileSize
  maxLineLength_pos : 0 < maxLineLength

end SchemaDdl

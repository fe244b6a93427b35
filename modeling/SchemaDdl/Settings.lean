import SchemaDdl.Options
import SchemaDdl.Value

namespace SchemaDdl

/-- Settings as a file or a caller gives them: any value under any of the four keys. -/
structure Settings where
  extension : Value := .text ".sql"
  strict : Value := .bool false
  maxFileSize : Value := .int 10485760
  maxLineLength : Value := .int 10000

namespace Settings

def set? (s : Settings) (key : String) (v : Value) : Option Settings :=
  match key with
  | "output_extension" => some { s with extension := v }
  | "strict_types" => some { s with strict := v }
  | "max_file_size" => some { s with maxFileSize := v }
  | "max_line_length" => some { s with maxLineLength := v }
  | _ => none

inductive KeyFault where
  | unknown (key : String)
  | taken (operation key : String)
  deriving DecidableEq, Repr

def KeyFault.message : KeyFault → String
  | .unknown key => s!"TranslatorConfig.__init__() got an unexpected keyword argument '{key}'"
  | .taken operation key => s!"{operation}() got multiple values for argument '{key}'"

def setAll (s : Settings) : List (String × Value) → Except KeyFault Settings
  | [] => .ok s
  | (key, v) :: rest =>
    match s.set? key v with
    | some s => s.setAll rest
    | none => .error (if key = "self" then .taken "TranslatorConfig.__init__" key else .unknown key)

def ofEntries (entries : List (String × Value)) : Except KeyFault Settings := ({} : Settings).setAll entries

def isPresent : Value → Bool
  | .absent => false
  | _ => true

def changes (overrides : List (String × Value)) : List (String × Value) := overrides.filter fun o ↦ isPresent o.2

def override (s : Settings) (overrides : List (String × Value)) : Except KeyFault Settings :=
  if overrides.any (·.1 = "config") then .error (.taken "apply_overrides" "config")
  else s.setAll (changes overrides)

inductive LimitKey where
  | fileSize | lineLength
  deriving DecidableEq, Repr

def LimitKey.name : LimitKey → String
  | .fileSize => "max_file_size"
  | .lineLength => "max_line_length"

inductive Fault where
  | emptyExtension
  | undottedExtension
  | separatorInExtension
  | strictNotBoolean
  | limitNotInteger (key : LimitKey)
  | limitNotPositive (key : LimitKey)
  deriving DecidableEq, Repr

def Fault.message : Fault → String
  | .emptyExtension => "`output_extension` must not be empty"
  | .undottedExtension => "`output_extension` must start with a dot"
  | .separatorInExtension => "`output_extension` must not contain path separators"
  | .strictNotBoolean => "`strict_types` must be a boolean"
  | .limitNotInteger key => s!"`{key.name}` must be an integer"
  | .limitNotPositive key => s!"`{key.name}` must be a positive integer"

def checkExtension : Value → Except Fault { s : String // IsExtension s }
  | .text s =>
    if s = "" then .error .emptyExtension
    else if dotted : s.toList.head? = some '.' then
      if flat : '/' ∉ s.toList ∧ '\\' ∉ s.toList then .ok ⟨s, dotted, flat⟩ else .error .separatorInExtension
    else .error .undottedExtension
  | _ => .error .emptyExtension

def checkStrict : Value → Except Fault Bool
  | .bool b => .ok b
  | _ => .error .strictNotBoolean

def checkLimit (key : LimitKey) : Value → Except Fault { n : Nat // 0 < n }
  | .int n => if h : 0 < n then .ok ⟨n.toNat, by omega⟩ else .error (.limitNotPositive key)
  | _ => .error (.limitNotInteger key)

/-- The options that settings stand for. The extension is checked first, the line length last. -/
def check (s : Settings) : Except Fault Options := do
  let extension ← checkExtension s.extension
  let strict ← checkStrict s.strict
  let maxFileSize ← checkLimit .fileSize s.maxFileSize
  let maxLineLength ← checkLimit .lineLength s.maxLineLength
  return ⟨extension.1, strict, maxFileSize.1, maxLineLength.1, extension.2, maxFileSize.2, maxLineLength.2⟩

theorem checkExtension_eq_ok_iff {v : Value} {e : { s : String // IsExtension s }} :
    checkExtension v = .ok e ↔ v = .text e.1 := by
  obtain ⟨e, he⟩ := e
  constructor
  · intro h
    unfold checkExtension at h
    split at h
    · split at h
      · cases h
      split at h
      · split at h
        · cases h
          rfl
        · cases h
      · cases h
    · cases h
  · rintro rfl
    have hne : e ≠ "" := by
      rintro rfl
      exact absurd he.1 (by simp)
    rw [checkExtension, if_neg hne, dif_pos he.1, dif_pos he.2]

theorem checkStrict_eq_ok_iff {v : Value} {b : Bool} : checkStrict v = .ok b ↔ v = .bool b := by
  cases v <;> simp [checkStrict]

theorem checkLimit_eq_ok_iff {key : LimitKey} {v : Value} {n : { n : Nat // 0 < n }} :
    checkLimit key v = .ok n ↔ v = .int n.1 := by
  obtain ⟨n, hn⟩ := n
  cases v with
  | int m =>
    rw [checkLimit, Value.int.injEq]
    dsimp only
    split
    next hm =>
      rw [Except.ok.injEq, Subtype.mk.injEq]
      omega
    next hm =>
      simp only [reduceCtorEq, false_iff]
      omega
  | _ => simp [checkLimit]

def ofOptions (o : Options) : Settings :=
  ⟨.text o.extension, .bool o.strict, .int o.maxFileSize, .int o.maxLineLength⟩

theorem check_eq_ok_iff {s : Settings} {o : Options} : s.check = .ok o ↔ s = ofOptions o := by
  obtain ⟨extension, strict, maxFileSize, maxLineLength⟩ := s
  obtain ⟨e, b, m, n, he, hm, hn⟩ := o
  constructor
  · intro h
    unfold check at h
    cases h₁ : checkExtension extension with
    | error f => simp [h₁, bind, Except.bind] at h
    | ok x =>
      cases h₂ : checkStrict strict with
      | error f => simp [h₁, h₂, bind, Except.bind] at h
      | ok y =>
        cases h₃ : checkLimit .fileSize maxFileSize with
        | error f => simp [h₁, h₂, h₃, bind, Except.bind] at h
        | ok k =>
          cases h₄ : checkLimit .lineLength maxLineLength with
          | error f => simp [h₁, h₂, h₃, h₄, bind, Except.bind] at h
          | ok l =>
            simp only [h₁, h₂, h₃, h₄, bind, Except.bind, pure, Except.pure] at h
            cases h
            rw [checkExtension_eq_ok_iff.1 h₁, checkStrict_eq_ok_iff.1 h₂, checkLimit_eq_ok_iff.1 h₃,
              checkLimit_eq_ok_iff.1 h₄]
            rfl
  · intro h
    cases h
    have h₁ : checkExtension (.text e) = .ok ⟨e, he⟩ := checkExtension_eq_ok_iff.2 rfl
    have h₃ : checkLimit .fileSize (.int m) = .ok ⟨m, hm⟩ := checkLimit_eq_ok_iff.2 rfl
    have h₄ : checkLimit .lineLength (.int n) = .ok ⟨n, hn⟩ := checkLimit_eq_ok_iff.2 rfl
    simp only [check, h₁, checkStrict, h₃, h₄, bind, Except.bind, pure, Except.pure]

end Settings

end SchemaDdl

import SchemaDdl.Proofs.CamelCase
import SchemaDdl.Proofs.Text
import SchemaDdl.Proofs.Uppercase

namespace SchemaDdl.ColumnName

variable {s cs : List Char} {c d : Char}

theorem startsWord_eq_isUpper (c : Char) : startsWord c = c.isUpper := by
  rw [Bool.eq_iff_iff, isUpper_iff_toNat, startsWord, decide_eq_true_iff]
  exact Iff.rfl

theorem length_markWords (s : List Char) : (markWords s).length = s.length + s.countP startsWord := by
  induction s with
  | nil => rfl
  | cons c cs ih =>
    rw [markWords_cons, List.length_append, ih, List.countP_cons, List.length_cons]
    cases startsWord c with
    | true =>
      simp only [if_true, List.length_cons, List.length_nil]
      omega
    | false =>
      simp only [Bool.false_eq_true, if_false, List.length_cons, List.length_nil]
      omega

theorem markWords_eq_self_iff : markWords s = s ↔ ∀ c ∈ s, startsWord c = false := by
  constructor
  · intro h
    have hlength := length_markWords s
    rw [h] at hlength
    have hcount : s.countP startsWord = 0 := by omega
    simpa only [Bool.not_eq_true] using List.countP_eq_zero.1 hcount
  · intro h
    induction s with
    | nil => rfl
    | cons c cs ih =>
      obtain ⟨hc, hcs⟩ := List.forall_mem_cons.1 h
      rw [markWords_cons, hc, ih hcs]
      rfl

def IsUpperCase (s : List Char) : Prop := ∀ c ∈ s, Text.upperChar c = [c]

theorem isUpperCase_upperSnake (s : List Char) : IsUpperCase (upperSnake s) := by
  intro d hd
  cases s with
  | nil => cases hd
  | cons c cs =>
    rw [upperSnake] at hd
    split at hd
    · exact Text.upperChar_of_mem_upper hd
    · exact Text.upperChar_of_mem_upper hd

theorem IsUpperCase.markWords (h : IsUpperCase s) : IsUpperCase (markWords s) := by
  intro d hd
  obtain rfl | hd := mem_markWords hd
  · decide
  · exact h d hd

theorem IsUpperCase.upperSnake_cons (h : IsUpperCase (c :: cs)) :
    upperSnake (c :: cs) = if (c :: cs).any Text.isLowercase then c :: ColumnName.markWords cs else c :: cs := by
  obtain ⟨hc, hcs⟩ := List.forall_mem_cons.1 h
  have hmarked : IsUpperCase (c :: ColumnName.markWords cs) :=
    List.forall_mem_cons.2 ⟨hc, IsUpperCase.markWords hcs⟩
  rw [upperSnake, Text.upper_eq_self hmarked, Text.upper_eq_self h]

theorem IsUpperCase.upperSnake_eq_self_iff (h : IsUpperCase s) :
    upperSnake s = s ↔ (∀ d ∈ s, Text.isLowercase d = false) ∨ ∀ d ∈ s.tail, startsWord d = false := by
  cases s with
  | nil => simp [upperSnake]
  | cons c cs =>
    rw [h.upperSnake_cons]
    split
    next hany =>
      have hlower : ¬∀ d ∈ c :: cs, Text.isLowercase d = false := by
        obtain ⟨d, hd, hl⟩ := List.any_eq_true.1 hany
        intro hall
        rw [hall d hd] at hl
        cases hl
      rw [List.cons.injEq, markWords_eq_self_iff, or_iff_right hlower]
      exact and_iff_right rfl
    next hany =>
      refine iff_of_true rfl (.inl ?_)
      simpa only [Bool.not_eq_true, List.any_eq_false] using hany

theorem mem_upper_of_mem_upperSnake (h : d ∈ upperSnake s) : d = '_' ∨ d ∈ Text.upper s := by
  have hmark : Text.upperChar '_' = ['_'] := by decide
  cases s with
  | nil => cases h
  | cons c cs =>
    rw [upperSnake] at h
    split at h
    · obtain ⟨e, he, hd⟩ := List.mem_flatMap.1 h
      obtain rfl | he := List.mem_cons.1 he
      · exact .inr (List.mem_flatMap.2 ⟨e, by simp, hd⟩)
      obtain rfl | he := mem_markWords he
      · rw [hmark] at hd
        exact .inl (List.mem_singleton.1 hd)
      · exact .inr (List.mem_flatMap.2 ⟨e, .tail _ he, hd⟩)
    · exact .inr h

theorem upperSnake_upperSnake_of_upper (h : ∀ d ∈ Text.upper s, Text.isLowercase d = false) :
    upperSnake (upperSnake s) = upperSnake s := by
  refine (isUpperCase_upperSnake s).upperSnake_eq_self_iff.2 (.inl ?_)
  intro d hd
  obtain rfl | hd := mem_upper_of_mem_upperSnake hd
  · decide
  · exact h d hd

theorem isLowercase_upperChar_ascii (h : c.toNat < 128) : ∀ d ∈ Text.upperChar c, Text.isLowercase d = false := by
  have hascii : ∀ n : Fin 128, (Text.upperChar (Char.ofNat n)).all (!Text.isLowercase ·) := by decide +kernel
  have hc := hascii ⟨c.toNat, h⟩
  simp only [Char.ofNat_toNat, List.all_eq_true, Bool.not_eq_true'] at hc
  exact hc

theorem forall_mem_tail_iff {P : Char → Prop} :
    (∀ d ∈ s.tail, P d) ↔ ∀ i d, 0 < i → s[i]? = some d → P d := by
  constructor
  · intro h i d hi hd
    obtain ⟨i, rfl⟩ := Nat.exists_eq_add_of_lt hi
    apply h d
    rw [List.mem_iff_getElem?]
    exact ⟨i, by simpa [List.getElem?_tail] using hd⟩
  · intro h d hd
    obtain ⟨i, hi⟩ := List.mem_iff_getElem?.1 hd
    exact h (i + 1) d (Nat.succ_pos i) (by simpa [List.getElem?_tail] using hi)

/-- A column name names itself exactly if none of its characters is lower case or none behind the first one is a capital
letter of ASCII. The first is so for a name in ASCII, and whenever nothing of the name is lower case in upper case. -/
theorem ofField_ofField_iff (name : String) :
    (ofField (ofField name) = ofField name ↔
      Text.Free Text.isLowercase (ofField name) ∨
        ∀ i c, 0 < i → (ofField name).toList[i]? = some c → c.isUpper = false) ∧
    ((∀ c ∈ name.toList, c.toNat < 128) → ofField (ofField name) = ofField name) ∧
    ((∀ c ∈ Text.upper name.toList, Text.isLowercase c = false) → ofField (ofField name) = ofField name) := by
  have hfixed : ofField (ofField name) = ofField name ↔
      upperSnake (upperSnake name.toList) = upperSnake name.toList := by
    rw [ofField, ofField, String.toList_ofList, String.ofList_inj]
  refine ⟨?_, ?_, ?_⟩
  · rw [hfixed, (isUpperCase_upperSnake name.toList).upperSnake_eq_self_iff, forall_mem_tail_iff]
    simp only [startsWord_eq_isUpper, Text.Free, ofField, String.toList_ofList]
  · intro hascii
    refine hfixed.2 (upperSnake_upperSnake_of_upper ?_)
    intro d hd
    obtain ⟨c, hc, hd⟩ := List.mem_flatMap.1 hd
    exact isLowercase_upperChar_ascii (hascii c hc) d hd
  · intro hupper
    exact hfixed.2 (upperSnake_upperSnake_of_upper hupper)

-- The first character is lower case and has no upper case, and so the name grows each time.
example : upperSnake ['ª', 'B'] = ['ª', '_', 'B'] ∧ upperSnake ['ª', '_', 'B'] = ['ª', '_', '_', 'B'] := by
  decide

end SchemaDdl.ColumnName

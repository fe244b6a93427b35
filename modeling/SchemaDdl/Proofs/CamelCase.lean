import SchemaDdl.ColumnName

namespace SchemaDdl.ColumnName

/-- A lower-case letter, then letters and digits. -/
def IsCamel : List Char → Prop
  | [] => False
  | c :: cs => c.isLower ∧ ∀ d ∈ cs, d.isAlphanum

instance : DecidablePred IsCamel
  | [] => inferInstanceAs (Decidable False)
  | c :: cs =>
    have := List.decidableBAll (fun d : Char ↦ d.isAlphanum = true) cs
    inferInstanceAs (Decidable (c.isLower = true ∧ _))

/-- The camel-case name of a column: the letter after an underscore stays, all others become lower case. -/
def camel : List Char → List Char
  | [] => []
  | ['_'] => []
  | '_' :: c :: cs => c :: camel cs
  | c :: cs => c.toLower :: camel cs

theorem isUpper_iff_toNat {c : Char} : c.isUpper ↔ 65 ≤ c.toNat ∧ c.toNat ≤ 90 := by
  have hd : c.isUpper = decide ('A'.val ≤ c.val ∧ c.val ≤ 'Z'.val) := rfl
  rw [hd, decide_eq_true_iff, UInt32.le_iff_toNat_le, UInt32.le_iff_toNat_le]
  exact Iff.rfl

theorem isLower_iff_toNat {c : Char} : c.isLower ↔ 97 ≤ c.toNat ∧ c.toNat ≤ 122 := by
  have hd : c.isLower = (decide ('a'.val ≤ c.val) && decide (c.val ≤ 'z'.val)) := rfl
  rw [hd, Bool.and_eq_true, decide_eq_true_iff, decide_eq_true_iff, UInt32.le_iff_toNat_le, UInt32.le_iff_toNat_le]
  exact Iff.rfl

theorem isAlphanum_iff {c : Char} : c.isAlphanum ↔ (c.isUpper ∨ c.isLower) ∨ c.isDigit := by
  have hd : c.isAlphanum = ((c.isUpper || c.isLower) || c.isDigit) := rfl
  rw [hd, Bool.or_eq_true, Bool.or_eq_true]

theorem toNat_lt_of_isAlphanum {c : Char} (h : c.isAlphanum) : c.toNat < 128 := by
  have hnine : '9'.toNat = 57 := rfl
  rw [isAlphanum_iff, isUpper_iff_toNat, isLower_iff_toNat, Char.isDigit_iff_toNat] at h
  omega

/-- A property of letters and digits is checked on the first 128 characters. -/
theorem forall_alphanum {P : Char → Prop} (h : ∀ n : Fin 128, (Char.ofNat n).isAlphanum → P (Char.ofNat n)) {c : Char}
    (hc : c.isAlphanum) : P c := by
  have hn := h ⟨c.toNat, toNat_lt_of_isAlphanum hc⟩
  simp only [Char.ofNat_toNat] at hn
  exact hn hc

theorem upperChar_alphanum {c : Char} (h : c.isAlphanum) :
    Text.upperChar c = [c.toUpper] ∧ startsWord c = c.isUpper ∧ (c.isUpper → c.toUpper = c) ∧
      (c.isUpper = false → c.toUpper.toLower = c) ∧ c.toUpper ≠ '_' ∧ c.toUpper.isAlphanum ∧
      (c.isLower → Text.isLowercase c) := by
  revert h
  apply forall_alphanum
  decide +kernel

theorem isAlphanum_of_isLower {c : Char} (h : c.isLower) : c.isAlphanum := isAlphanum_iff.2 (.inl (.inr h))

theorem upper_cons (c : Char) (cs : List Char) : Text.upper (c :: cs) = Text.upperChar c ++ Text.upper cs := rfl

theorem markWords_cons (c : Char) (cs : List Char) :
    markWords (c :: cs) = (if startsWord c then ['_', c] else [c]) ++ markWords cs := rfl

theorem mem_markWords {s : List Char} {c : Char} (h : c ∈ markWords s) : c = '_' ∨ c ∈ s := by
  obtain ⟨d, hd, hc⟩ := List.mem_flatMap.1 h
  split at hc
  · obtain rfl | rfl : c = '_' ∨ c = d := by simpa using hc
    · exact .inl rfl
    · exact .inr hd
  · obtain rfl := List.mem_singleton.1 hc
    exact .inr hd

theorem upper_markWords_cons {c : Char} (h : c.isAlphanum) (cs : List Char) :
    Text.upper (markWords (c :: cs)) =
      (if c.isUpper then ['_', c] else [c.toUpper]) ++ Text.upper (markWords cs) := by
  obtain ⟨hup, hstart, hsame, -⟩ := upperChar_alphanum h
  have hmark : Text.upperChar '_' = ['_'] := by decide
  rw [markWords_cons, hstart]
  cases hc : c.isUpper with
  | true => simp [upper_cons, hmark, hup, hsame hc]
  | false => simp [upper_cons, hup]

theorem upperSnake_camel {c : Char} (h : c.isLower) (cs : List Char) :
    upperSnake (c :: cs) = c.toUpper :: Text.upper (markWords cs) := by
  obtain ⟨hup, -, -, -, -, -, hlow⟩ := upperChar_alphanum (isAlphanum_of_isLower h)
  simp [upperSnake, hlow h, upper_cons, hup]

theorem camel_cons_of_ne {c : Char} (h : c ≠ '_') (cs : List Char) : camel (c :: cs) = c.toLower :: camel cs := by
  cases cs <;> simp_all [camel]

theorem camel_upper_markWords {cs : List Char} (h : ∀ c ∈ cs, c.isAlphanum) :
    camel (Text.upper (markWords cs)) = cs := by
  induction cs with
  | nil => rfl
  | cons c cs ih =>
    have hc := h c (by simp)
    obtain ⟨-, -, -, hlow, hne, -⟩ := upperChar_alphanum hc
    have hcs := ih (fun d hd ↦ h d (.tail _ hd))
    rw [upper_markWords_cons hc]
    cases hu : c.isUpper with
    | true => simp [camel, hcs]
    | false => simp [camel_cons_of_ne hne, hlow hu, hcs]

theorem camel_upperSnake {s : List Char} (h : IsCamel s) : camel (upperSnake s) = s := by
  cases s with
  | nil => exact h.elim
  | cons c cs =>
    obtain ⟨hc, hcs⟩ := h
    obtain ⟨-, -, -, hlow, hne, -⟩ := upperChar_alphanum (isAlphanum_of_isLower hc)
    have hu : c.isUpper = false := by
      have hn := isLower_iff_toNat.1 hc
      rw [← Bool.not_eq_true, isUpper_iff_toNat]
      omega
    rw [upperSnake_camel hc, camel_cons_of_ne hne, hlow hu, camel_upper_markWords hcs]

theorem mem_upper_markWords {cs : List Char} (h : ∀ c ∈ cs, c.isAlphanum) {d : Char}
    (hd : d ∈ Text.upper (markWords cs)) : d.isAlphanum ∨ d = '_' := by
  induction cs with
  | nil => simp [markWords, Text.upper] at hd
  | cons c cs ih =>
    have hc := h c (by simp)
    obtain ⟨-, -, -, -, -, hup, -⟩ := upperChar_alphanum hc
    rw [upper_markWords_cons hc, List.mem_append] at hd
    obtain hd | hd := hd
    · cases hu : c.isUpper with
      | true =>
        obtain rfl | rfl : d = '_' ∨ d = c := by simpa [hu] using hd
        · exact .inr rfl
        · exact .inl hc
      | false =>
        obtain rfl : d = c.toUpper := by simpa [hu] using hd
        exact .inl hup
    · exact ih (fun e he ↦ h e (.tail _ he)) hd

theorem mem_upperSnake {s : List Char} (h : IsCamel s) {d : Char} (hd : d ∈ upperSnake s) :
    d.isAlphanum ∨ d = '_' := by
  cases s with
  | nil => exact h.elim
  | cons c cs =>
    obtain ⟨hc, hcs⟩ := h
    obtain ⟨-, -, -, -, -, hup, -⟩ := upperChar_alphanum (isAlphanum_of_isLower hc)
    rw [upperSnake_camel hc, List.mem_cons] at hd
    obtain rfl | hd := hd
    · exact .inl hup
    · exact mem_upper_markWords hcs hd

end SchemaDdl.ColumnName

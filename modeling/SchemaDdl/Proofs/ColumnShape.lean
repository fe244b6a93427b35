import Mathlib.Computability.Language
import Mathlib.Data.List.Nodup
import Mathlib.Data.Set.Function
import SchemaDdl.Proofs.CamelCase

namespace SchemaDdl.ColumnName

open scoped Computability

def one (p : Char → Bool) : Language Char := {s | ∃ c, s = [c] ∧ p c}

def many (p : Char → Bool) : Language Char := {s | ∀ c ∈ s, p c}

def isCapitalOrDigit (c : Char) : Bool := c.isUpper || c.isDigit

/-- `[a-z][a-zA-Z0-9]*` -/
def fieldLanguage : Language Char := one Char.isLower * many Char.isAlphanum

/-- `[A-Z][A-Z0-9]*` -/
def wordLanguage : Language Char := one Char.isUpper * many isCapitalOrDigit

/-- `[A-Z][A-Z0-9]*(_[A-Z][A-Z0-9]*)*` -/
def columnLanguage : Language Char := wordLanguage * ({['_']} * wordLanguage)∗

def restLanguage : Language Char := many isCapitalOrDigit * ({['_']} * wordLanguage)∗

/-- The field that a column is named after. -/
def toField (column : String) : String := String.ofList (camel column.toList)

variable {p : Char → Bool} {c : Char} {s a : List Char}

theorem nil_mem_many : [] ∈ many p := List.forall_mem_nil _

theorem mem_one_mul {l : Language Char} : s ∈ one p * l ↔ ∃ c t, s = c :: t ∧ p c ∧ t ∈ l := by
  rw [Language.mem_mul]
  constructor
  · rintro ⟨_, ⟨c, rfl, hc⟩, t, ht, rfl⟩
    exact ⟨c, t, rfl, hc, ht⟩
  · rintro ⟨c, t, rfl, hc, ht⟩
    exact ⟨[c], ⟨c, rfl, hc⟩, t, ht, rfl⟩

theorem mem_fieldLanguage : s ∈ fieldLanguage ↔ IsCamel s := by
  rw [fieldLanguage, mem_one_mul]
  constructor
  · rintro ⟨c, t, rfl, hc, ht⟩
    exact ⟨hc, ht⟩
  · intro h
    cases s with
    | nil => exact h.elim
    | cons c t => exact ⟨c, t, rfl, h.1, h.2⟩

theorem mem_columnLanguage : s ∈ columnLanguage ↔ ∃ c t, s = c :: t ∧ c.isUpper ∧ t ∈ restLanguage := by
  rw [columnLanguage, wordLanguage, mul_assoc]
  exact mem_one_mul

theorem toLower_capital (h : isCapitalOrDigit c) :
    c.toLower.isAlphanum ∧ c.toLower.isUpper = false ∧ c.toLower.toUpper = c ∧ c ≠ '_' ∧
      (c.isUpper → c.toLower.isLower) := by
  have hc : c.isAlphanum := by
    rw [isAlphanum_iff]
    rw [isCapitalOrDigit, Bool.or_eq_true] at h
    exact h.imp_left Or.inl
  revert h
  revert hc
  apply forall_alphanum
  decide +kernel

theorem toUpper_alphanum (h : c.isAlphanum) :
    isCapitalOrDigit c.toUpper ∧ (c.isLower → c.toUpper.isUpper) := by
  revert h
  apply forall_alphanum
  decide +kernel

theorem upper_markWords_mem (h : ∀ c ∈ s, c.isAlphanum) : Text.upper (markWords s) ∈ restLanguage := by
  induction s with
  | nil => exact Language.append_mem_mul nil_mem_many (Language.nil_mem_kstar _)
  | cons c s ih =>
    obtain ⟨hc, hs⟩ := List.forall_mem_cons.1 h
    obtain ⟨a, ha, b, hb, hab⟩ := Language.mem_mul.1 (ih hs)
    rw [upper_markWords_cons hc, ← hab]
    cases hu : c.isUpper with
    | true =>
      -- a capital starts a new word, and the letters and digits behind it belong to this word
      have hword : ['_'] ++ ([c] ++ a) ∈ ({['_']} : Language Char) * wordLanguage :=
        Language.append_mem_mul rfl (Language.append_mem_mul ⟨c, rfl, hu⟩ ha)
      obtain ⟨parts, rfl, hparts⟩ := Language.mem_kstar.1 hb
      have hrest : [] ++ ((['_'] ++ ([c] ++ a)) :: parts).flatten ∈ restLanguage :=
        Language.append_mem_mul nil_mem_many (Language.join_mem_kstar (List.forall_mem_cons.2 ⟨hword, hparts⟩))
      simpa using hrest
    | false =>
      have hrest : (c.toUpper :: a) ++ b ∈ restLanguage :=
        Language.append_mem_mul (List.forall_mem_cons.2 ⟨(toUpper_alphanum hc).1, ha⟩) hb
      simpa using hrest

/-- Behind the first letter of a field, the column text `s` stands for letters and digits and is what these become. -/
def ReadsBack (s : List Char) : Prop := (∀ c ∈ camel s, c.isAlphanum) ∧ Text.upper (markWords (camel s)) = s

theorem ReadsBack.append (h : ReadsBack s) (ha : a ∈ many isCapitalOrDigit) : ReadsBack (a ++ s) := by
  induction a with
  | nil => exact h
  | cons c a ih =>
    obtain ⟨hc, ha⟩ := List.forall_mem_cons.1 ha
    obtain ⟨hlower, hnot, hupper, hmark, -⟩ := toLower_capital hc
    obtain ⟨hall, hback⟩ := ih ha
    rw [ReadsBack, List.cons_append, camel_cons_of_ne hmark]
    refine ⟨List.forall_mem_cons.2 ⟨hlower, hall⟩, ?_⟩
    rw [upper_markWords_cons hlower, hnot, hupper, hback]
    rfl

theorem ReadsBack.word (h : ReadsBack s) (hc : c.isUpper) : ReadsBack ('_' :: c :: s) := by
  have halphanum : c.isAlphanum := isAlphanum_iff.2 (.inl (.inl hc))
  have hcamel : camel ('_' :: c :: s) = c :: camel s := rfl
  rw [ReadsBack, hcamel]
  refine ⟨List.forall_mem_cons.2 ⟨halphanum, h.1⟩, ?_⟩
  rw [upper_markWords_cons halphanum, hc, h.2]
  rfl

theorem readsBack_of_mem (h : s ∈ restLanguage) : ReadsBack s := by
  obtain ⟨a, ha, b, hb, rfl⟩ := Language.mem_mul.1 h
  obtain ⟨parts, rfl, hparts⟩ := Language.mem_kstar.1 hb
  refine ReadsBack.append ?_ ha
  -- what is left is a list of words, each behind an underscore
  clear h ha hb
  induction parts with
  | nil => exact ⟨by simp [camel], rfl⟩
  | cons part parts ih =>
    obtain ⟨hpart, hrest⟩ := List.forall_mem_cons.1 hparts
    obtain ⟨_, rfl, _, hword, rfl⟩ := Language.mem_mul.1 hpart
    obtain ⟨c, t, rfl, hc, ht⟩ := mem_one_mul.1 hword
    exact ((ih hrest).append ht).word hc

theorem upperSnake_mem (h : IsCamel s) : upperSnake s ∈ columnLanguage := by
  cases s with
  | nil => exact h.elim
  | cons c cs =>
    obtain ⟨hc, hcs⟩ := h
    rw [upperSnake_camel hc]
    exact mem_columnLanguage.2 ⟨_, _, rfl, (toUpper_alphanum (isAlphanum_of_isLower hc)).2 hc, upper_markWords_mem hcs⟩

theorem upperSnake_camel_of_mem (h : s ∈ columnLanguage) : IsCamel (camel s) ∧ upperSnake (camel s) = s := by
  obtain ⟨c, t, rfl, hc, ht⟩ := mem_columnLanguage.1 h
  obtain ⟨-, -, hupper, hmark, hlower⟩ := toLower_capital (c := c) (by rw [isCapitalOrDigit, hc]; rfl)
  obtain ⟨hall, hback⟩ := readsBack_of_mem ht
  rw [camel_cons_of_ne hmark]
  refine ⟨⟨hlower hc, hall⟩, ?_⟩
  rw [upperSnake_camel (hlower hc), hupper, hback]

/-- Camel-case fields and columns correspond one to one, and `toField` goes back. So the columns of a record are as
distinct as its fields. -/
theorem ofField_bijOn :
    Set.BijOn ofField {name | name.toList ∈ fieldLanguage} {column | column.toList ∈ columnLanguage} ∧
      Set.InvOn toField ofField {name | name.toList ∈ fieldLanguage} {column | column.toList ∈ columnLanguage} ∧
      Set.MapsTo toField {column | column.toList ∈ columnLanguage} {name | name.toList ∈ fieldLanguage} ∧
      ∀ names : List String, (∀ n ∈ names, n.toList ∈ fieldLanguage) → names.Nodup → (names.map ofField).Nodup := by
  have hcolumn : Set.MapsTo ofField {name | name.toList ∈ fieldLanguage} {column | column.toList ∈ columnLanguage} := by
    intro name hname
    change (ofField name).toList ∈ columnLanguage
    rw [ofField, String.toList_ofList]
    exact upperSnake_mem (mem_fieldLanguage.1 hname)
  have hfield : Set.MapsTo toField {column | column.toList ∈ columnLanguage} {name | name.toList ∈ fieldLanguage} := by
    intro column hcolumn
    change (toField column).toList ∈ fieldLanguage
    rw [toField, String.toList_ofList]
    exact mem_fieldLanguage.2 (upperSnake_camel_of_mem hcolumn).1
  have hinverse : Set.InvOn toField ofField {name | name.toList ∈ fieldLanguage}
      {column | column.toList ∈ columnLanguage} := by
    refine ⟨?_, ?_⟩
    · intro name hname
      rw [toField, ofField, String.toList_ofList, camel_upperSnake (mem_fieldLanguage.1 hname), String.ofList_toList]
    · intro column hcolumn
      rw [ofField, toField, String.toList_ofList, (upperSnake_camel_of_mem hcolumn).2, String.ofList_toList]
  have hbij := hinverse.bijOn hcolumn hfield
  refine ⟨hbij, hinverse, hfield, ?_⟩
  intro names hnames hnodup
  refine hnodup.map_on ?_
  intro a ha b hb hab
  exact hbij.injOn (hnames a ha) (hnames b hb) hab

end SchemaDdl.ColumnName

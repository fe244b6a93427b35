import SchemaDdl.Proofs.Acceptance
import SchemaDdl.Proofs.CamelCase
import SchemaDdl.Proofs.Text

namespace SchemaDdl

/-- A text that is one token of its line. -/
def IsWord (s : String) : Prop := s ≠ "" ∧ Text.Free Text.isBlank s

instance (s : String) : Decidable (IsWord s) := inferInstanceAs (Decidable (_ ∧ _))

/-- A value of an enumeration that its line can carry. -/
def IsValue (s : String) : Prop :=
  s ≠ "" ∧ Text.trim s = s ∧ Text.Free Text.isLineEnd s ∧ s ≠ closeBrace ∧
    s.toList.getLast? ≠ some ','

instance (s : String) : Decidable (IsValue s) := inferInstanceAs (Decidable (_ ∧ _))

structure Attribute where
  required : Bool
  typeName : String
  name : String
  deriving DecidableEq, Repr

inductive Declaration where
  | record (name : String) (attributes : List Attribute)
  | enumeration (name : String) (values : List String)
  deriving DecidableEq, Repr

-- Between the items of a block, not after the last one.
def commaBefore {α : Type} (rest : List α) : String := if rest.isEmpty then "" else ","

namespace Attribute

def WellFormed (a : Attribute) : Prop :=
  (ColumnType.ofName? a.typeName).isSome ∧ ColumnName.IsCamel a.name.toList

instance (a : Attribute) : Decidable a.WellFormed := inferInstanceAs (Decidable (_ ∧ _))

def line (i : Nat) (a : Attribute) (comma : String) : String :=
  "  " ++ i.repr ++ ": " ++ (if a.required then "required" else "optional") ++ " " ++ a.typeName ++ " " ++ a.name ++
    ":" ++ comma

def lines (i : Nat) : List Attribute → List String
  | [] => []
  | a :: as => a.line i (commaBefore as) :: lines (i + 1) as

def columns : List Attribute → List Fragment
  | [] => []
  | a :: as => .column (ColumnName.ofField a.name) (columnTypeText a.typeName) a.required as.isEmpty :: columns as

end Attribute

def valueLines : List String → List String
  | [] => []
  | v :: vs => ("  " ++ v ++ commaBefore vs) :: valueLines vs

def header (keyword name : String) : String := keyword ++ " " ++ name ++ " \x7b"

namespace Declaration

def WellFormed : Declaration → Prop
  | record name attributes => IsWord name ∧ ∀ a ∈ attributes, a.WellFormed
  | enumeration name values => IsWord name ∧ ∀ v ∈ values, IsValue v

instance : DecidablePred WellFormed
  | record .. => inferInstanceAs (Decidable (_ ∧ _))
  | enumeration .. => inferInstanceAs (Decidable (_ ∧ _))

def lines : Declaration → List String
  | record name attributes => header "struct" name :: Attribute.lines 1 attributes ++ [closeBrace]
  | enumeration name values => header "enum" name :: valueLines values ++ [closeBrace]

def fragments : Declaration → List Fragment
  | record name attributes => .tableHeader name :: Attribute.columns attributes ++ [.tableFooter]
  | enumeration name values => [.tableHeader name, .lookupColumns, .tableFooter] ++ values.map (.row name)

def table? : Declaration → Option String
  | record name _ => some name
  | enumeration _ _ => none

def lookup? : Declaration → Option String
  | record _ _ => none
  | enumeration name _ => some name

end Declaration

/-- The lines of a schema, with `gap` empty lines after each declaration. -/
def schemaLines (gap : Nat) (ds : List Declaration) : List String :=
  ds.flatMap fun d ↦ d.lines ++ List.replicate gap ""

def schemaText (gap : Nat) (ds : List Declaration) : String := "\n".intercalate (schemaLines gap ds)

theorem isBlank_of_isLineEnd {c : Char} (h : Text.isLineEnd c) : Text.isBlank c := by
  have hn : c.toNat ∈ [10, 11, 12, 13, 28, 29, 30, 0x85, 0x2028, 0x2029] := by
    simp [Text.isLineEnd, Text.inRuns, Text.Run.mem] at h ⊢
    omega
  have table : ∀ n ∈ [10, 11, 12, 13, 28, 29, 30, 0x85, 0x2028, 0x2029], Text.inRuns Text.blankRuns n := by decide
  exact table _ hn

theorem isBlank_alphanum {c : Char} (h : c.isAlphanum) :
    Text.isBlank c = false ∧ (c.isDigit → Text.isDigit c) := by
  revert h
  apply ColumnName.forall_alphanum
  decide +kernel

theorem IsWord.free_isLineEnd {s : String} (h : IsWord s) : Text.Free Text.isLineEnd s := by
  intro c hc
  have hb := h.2 c hc
  cases he : Text.isLineEnd c with
  | false => rfl
  | true =>
    rw [isBlank_of_isLineEnd he] at hb
    cases hb

theorem IsWord.append {s t : String} (hs : IsWord s) (ht : Text.Free Text.isBlank t) : IsWord (s ++ t) := by
  refine ⟨?_, hs.2.append ht⟩
  intro he
  exact hs.1 (String.append_eq_empty_iff.1 he).1

theorem IsWord.space_not_mem {s : String} (h : IsWord s) : ' ' ∉ s.toList := by
  intro hc
  have hb := h.2 ' ' hc
  exact absurd hb (by decide)

theorem isDigit_ordinal {i : Nat} {c : Char} (h : c ∈ i.repr.toList) : Text.isBlank c = false ∧ Text.isDigit c := by
  rw [Nat.toList_repr] at h
  have hd := Nat.isDigit_of_mem_toDigits (by decide) (by decide) h
  obtain ⟨hb, hdigit⟩ := isBlank_alphanum (ColumnName.isAlphanum_iff.2 (.inr hd))
  exact ⟨hb, hdigit hd⟩

theorem exists_ordinal_cons (i : Nat) : ∃ c cs, i.repr.toList = c :: cs := by
  rw [Nat.toList_repr]
  exact List.exists_cons_of_ne_nil Nat.toDigits_ne_nil

theorem isWord_ordinal (i : Nat) : IsWord (i.repr ++ ":") := by
  refine IsWord.append ⟨?_, fun c hc ↦ (isDigit_ordinal hc).1⟩ (by decide)
  intro he
  obtain ⟨c, cs, hcs⟩ := exists_ordinal_cons i
  simp [he] at hcs

theorem isWord_camel {s : String} (h : ColumnName.IsCamel s.toList) : IsWord s := by
  have hmem : ∀ c ∈ s.toList, c.isAlphanum := by
    cases hs : s.toList with
    | nil => simp
    | cons c cs =>
      rw [hs] at h
      rintro d (_ | ⟨_, hd⟩)
      · exact ColumnName.isAlphanum_of_isLower h.1
      · exact h.2 d hd
  refine ⟨?_, fun c hc ↦ (isBlank_alphanum (hmem c hc)).1⟩
  rintro rfl
  exact h

theorem isWord_typeName {s : String} (h : (ColumnType.ofName? s).isSome) : IsWord s := by
  unfold ColumnType.ofName? at h
  split at h
  case h_7 => cases h
  all_goals decide

section Words

variable {indent : String} {words : List String}

theorem pieces_intercalate (hw : ∀ w ∈ words, IsWord w) (hne : words ≠ []) :
    Text.pieces ' ' (List.intercalate [' '] (words.map String.toList)) = words.map String.toList := by
  refine Text.pieces_intercalate ?_ (by simpa using hne)
  intro w hw'
  obtain ⟨word, hword, rfl⟩ := List.mem_map.1 hw'
  exact (hw word hword).space_not_mem

theorem tight_intercalate (hw : ∀ w ∈ words, IsWord w) (hne : words ≠ []) :
    Text.Tight Text.isBlank (List.intercalate [' '] (words.map String.toList)) ∧
      List.intercalate [' '] (words.map String.toList) ≠ [] := by
  induction words with
  | nil => exact absurd rfl hne
  | cons w ws ih =>
    have hword := hw w (by simp)
    have ht : Text.Tight Text.isBlank w.toList := Text.tight_of_forall hword.2
    have hwne : w.toList ≠ [] := fun he ↦ hword.1 (String.toList_eq_nil_iff.1 he)
    cases ws with
    | nil => simpa [List.intercalate] using ⟨ht, hword.1⟩
    | cons v vs =>
      obtain ⟨htail, htne⟩ := ih (fun u hu ↦ hw u (.tail _ hu)) (by simp)
      rw [List.map_cons, List.map_cons, Text.intercalate_cons_cons]
      rw [List.map_cons] at htail htne
      refine ⟨?_, by simp⟩
      have happ := ht.append htail hwne htne [' ']
      rw [List.append_assoc] at happ
      exact happ

theorem tokens_words (hi : ∀ c ∈ indent.toList, c = ' ') (hw : ∀ w ∈ words, IsWord w) (hne : words ≠ []) :
    tokens (indent ++ " ".intercalate words) = words := by
  have hblank : ∀ c ∈ indent.toList, Text.isBlank c := by
    intro c hc
    rw [hi c hc]
    decide
  have hlist : (indent ++ " ".intercalate words).toList =
      indent.toList ++ List.intercalate [' '] (words.map String.toList) := by
    rw [String.toList_append, String.toList_intercalate]
    rfl
  unfold tokens
  rw [hlist, Text.dropEnds_append hblank (tight_intercalate hw hne).1, pieces_intercalate hw hne, List.map_map]
  simp

theorem free_isLineEnd_words (hi : ∀ c ∈ indent.toList, c = ' ') (hw : ∀ w ∈ words, IsWord w) :
    Text.Free Text.isLineEnd (indent ++ " ".intercalate words) := by
  have hspace : Text.isLineEnd ' ' = false := by decide
  intro c hc
  rw [String.toList_append, String.toList_intercalate, List.mem_append] at hc
  obtain hc | hc := hc
  · rw [hi c hc, hspace]
  · obtain rfl | ⟨l, hl, hcl⟩ := Text.mem_intercalate hc
    · exact hspace
    · obtain ⟨w, hwm, rfl⟩ := List.mem_map.1 hl
      exact (hw w hwm).free_isLineEnd c hcl

end Words

theorem header_eq_words (keyword name : String) : header keyword name = "" ++ " ".intercalate [keyword, name, "\x7b"] := by
  apply String.toList_inj.1
  simp [header]

theorem Attribute.line_eq_words (i : Nat) (a : Attribute) (comma : String) :
    a.line i comma = "  " ++ " ".intercalate
      [i.repr ++ ":", if a.required then "required" else "optional", a.typeName, a.name ++ ":" ++ comma] := by
  apply String.toList_inj.1
  simp [line]

theorem commaBefore_cases {α : Type} (rest : List α) :
    rest.isEmpty ∧ commaBefore rest = "" ∨ rest.isEmpty = false ∧ commaBefore rest = "," := by
  cases rest with
  | nil => exact .inl ⟨rfl, rfl⟩
  | cons x xs => exact .inr ⟨rfl, rfl⟩

theorem free_commaBefore {α : Type} (rest : List α) {p : Char → Bool} (hp : p ',' = false) :
    Text.Free p (commaBefore rest) := by
  obtain ⟨-, he⟩ | ⟨-, he⟩ := commaBefore_cases rest
  · rw [he]
    nofun
  · rw [he]
    intro c hc
    obtain rfl : c = ',' := by simpa using hc
    exact hp

section Header

variable {keyword name : String}

theorem isWord_header (hk : IsWord keyword) (hn : IsWord name) : ∀ w ∈ [keyword, name, "\x7b"], IsWord w := by
  have hbrace : IsWord "\x7b" := by decide
  simp [hk, hn, hbrace]

theorem tokens_header (hk : IsWord keyword) (hn : IsWord name) :
    tokens (header keyword name) = [keyword, name, "\x7b"] := by
  rw [header_eq_words, tokens_words (by simp) (isWord_header hk hn) (by simp)]

theorem free_isLineEnd_header (hk : IsWord keyword) (hn : IsWord name) :
    Text.Free Text.isLineEnd (header keyword name) := by
  rw [header_eq_words]
  exact free_isLineEnd_words (by simp) (isWord_header hk hn)

theorem blockName_header (hk : IsWord keyword) (hn : IsWord name) (l : SourceLine) :
    blockName (tokens (header keyword name)) l = .ok name := by
  rw [tokens_header hk hn]
  simp [blockName, hn.1]

end Header

namespace Attribute

def field (i : Nat) (a : Attribute) : Field := ⟨i.repr ++ ":", a.required, a.typeName, a.name⟩

variable {a : Attribute}

theorem WellFormed.isWord (h : a.WellFormed) (i : Nat) {α : Type} (rest : List α) :
    ∀ w ∈ [i.repr ++ ":", if a.required then "required" else "optional", a.typeName, a.name ++ ":" ++ commaBefore rest],
      IsWord w := by
  have hmarker : IsWord (if a.required then "required" else "optional") := by
    cases a.required <;> decide
  have hname : IsWord (a.name ++ ":" ++ commaBefore rest) := by
    have hcolon : Text.Free Text.isBlank ":" := by decide
    exact ((isWord_camel h.2).append hcolon).append (free_commaBefore rest (by decide))
  simp [isWord_ordinal i, hmarker, isWord_typeName h.1, hname]

theorem WellFormed.free_isLineEnd_line (h : a.WellFormed) (i : Nat) {α : Type} (rest : List α) :
    Text.Free Text.isLineEnd (a.line i (commaBefore rest)) := by
  rw [line_eq_words]
  exact free_isLineEnd_words (by simp) (h.isWord i rest)

theorem WellFormed.tokens_line (h : a.WellFormed) (i : Nat) {α : Type} (rest : List α) :
    tokens (a.line i (commaBefore rest)) =
      [i.repr ++ ":", if a.required then "required" else "optional", a.typeName, a.name ++ ":" ++ commaBefore rest] := by
  rw [line_eq_words, tokens_words (by simp) (h.isWord i rest) (by simp)]

theorem bareName_line {α : Type} (name : String) (rest : List α) : bareName (name ++ ":" ++ commaBefore rest) = name := by
  obtain ⟨-, he⟩ | ⟨-, he⟩ := commaBefore_cases rest
  · simp [he, bareName, Text.dropLastIf]
  · simp [he, bareName, Text.dropLastIf]

end Attribute

theorem LineKind.ofTokens_of_digit {first : String} {c : Char} {cs : List Char} (hf : first.toList = c :: cs)
    (hc : Text.isDigit c) (ts : List String) : LineKind.ofTokens (first :: ts) = .field := by
  have hs : first ≠ "struct" := by
    rintro rfl
    cases hf
    exact absurd hc (by decide)
  have he : first ≠ "enum" := by
    rintro rfl
    cases hf
    exact absurd hc (by decide)
  simp [LineKind.ofTokens, hs, he, hf, hc]

theorem Attribute.WellFormed.valid_member {a : Attribute} (h : a.WellFormed) (strict : Bool) (n : Int) (i : Nat)
    {α : Type} (rest : List α) : (Member.field ⟨n, a.line i (commaBefore rest)⟩ (a.field i)).Valid strict := by
  refine ⟨?_, ?_, fun _ ↦ h.1⟩
  · obtain ⟨c, cs, hcs⟩ := exists_ordinal_cons i
    have hdigit := (isDigit_ordinal (i := i) (c := c) (by simp [hcs])).2
    rw [SourceLine.kind, h.tokens_line]
    exact LineKind.ofTokens_of_digit (by rw [String.toList_append, hcs]; rfl) hdigit _
  · have hne := (isWord_camel h.2).1
    rw [h.tokens_line]
    simp only [Field.ofTokens, bareName_line, if_neg hne, field]
    cases a.required <;> rfl

namespace Attribute

/-- The members of the record that the lines of the fields make, with line numbers from `n`. -/
def members (n : Int) (i : Nat) : List Attribute → List Member
  | [] => []
  | a :: as => .field ⟨n, a.line i (commaBefore as)⟩ (a.field i) :: members (n + 1) (i + 1) as

variable {as : List Attribute} {strict : Bool} {n : Int} {i : Nat}

theorem valid_members (h : ∀ a ∈ as, a.WellFormed) : ∀ m ∈ members n i as, m.Valid strict := by
  induction as generalizing n i with
  | nil => nofun
  | cons a as ih =>
    rintro m (_ | ⟨_, hm⟩)
    · exact (h a (by simp)).valid_member strict n i as
    · exact ih (fun b hb ↦ h b (.tail _ hb)) m hm

theorem line_members (h : ∀ a ∈ as, a.WellFormed) : (members n i as).map Member.line = numberLines n (lines i as) := by
  induction as generalizing n i with
  | nil => rfl
  | cons a as ih =>
    have hl := Text.dropTerminator_eq_self ((h a (by simp)).free_isLineEnd_line i as)
    rw [members, lines, numberLines, List.map_cons, hl, ih (fun b hb ↦ h b (.tail _ hb))]
    rfl

theorem isEmpty_members : (members n i as).isEmpty = as.isEmpty := by
  cases as <;> rfl

theorem columns_members (h : ∀ a ∈ as, a.WellFormed) {close : SourceLine} (hc : Automaton.isBrace close) :
    Member.columns close (members n i as) = columns as := by
  induction as generalizing n i with
  | nil => rfl
  | cons a as ih =>
    have has : ∀ b ∈ as, b.WellFormed := fun b hb ↦ h b (.tail _ hb)
    have hv : ∀ m ∈ members (n + 1) (i + 1) as, m.Valid false := valid_members has
    rw [members, Member.columns, Member.column, Member.isBrace_following hv, isEmpty_members, hc, Bool.and_true, ih has]
    rfl

theorem findings_members (h : ∀ a ∈ as, a.WellFormed) (block : String) :
    (members n i as).flatMap (Member.findings block) = [] := by
  induction as generalizing n i with
  | nil => rfl
  | cons a as ih =>
    have htype : ColumnType.ofName? (a.field i).typeName ≠ none := Option.isSome_iff_ne_none.1 (h a (by simp)).1
    rw [members, List.flatMap_cons, Member.findings, if_neg htype, ih (fun b hb ↦ h b (.tail _ hb))]
    rfl

end Attribute

section Values

variable {v : String} {vs : List String} {n : Int}

theorem IsValue.trim_line (h : IsValue v) {α : Type} (rest : List α) :
    Text.trim ("  " ++ v ++ commaBefore rest) = v ++ commaBefore rest := by
  have hne : v.toList ≠ [] := fun he ↦ h.1 (String.toList_eq_nil_iff.1 he)
  have hv : Text.Tight Text.isBlank v.toList := by
    have ht := congrArg String.toList h.2.1
    rw [Text.trim, String.toList_ofList] at ht
    exact Text.tight_of_dropEnds_eq_self ht
  have hline : Text.Tight Text.isBlank (v ++ commaBefore rest).toList := by
    obtain ⟨-, he⟩ | ⟨-, he⟩ := commaBefore_cases rest
    · simpa [he] using hv
    · have hc : Text.isBlank ',' = false := by decide
      have hcomma : Text.Tight Text.isBlank [','] := Text.tight_of_forall (by simpa using hc)
      simpa [he] using hv.append hcomma hne (by simp) []
  have hspace : Text.isBlank ' ' := by decide
  have hindent : ∀ c ∈ "  ".toList, Text.isBlank c := by simpa using hspace
  rw [Text.trim, String.append_assoc, String.toList_append, Text.dropEnds_append hindent hline]
  simp

theorem IsValue.free_isLineEnd_line (h : IsValue v) {α : Type} (rest : List α) :
    Text.Free Text.isLineEnd ("  " ++ v ++ commaBefore rest) := by
  have hindent : Text.Free Text.isLineEnd "  " := by decide
  exact (hindent.append h.2.2.1).append (free_commaBefore rest (by decide))

theorem IsValue.line_ne_brace (h : IsValue v) {α : Type} (rest : List α) : v ++ commaBefore rest ≠ closeBrace := by
  obtain ⟨-, he⟩ | ⟨-, he⟩ := commaBefore_cases rest
  · simpa [he] using h.2.2.2.1
  · intro hb
    have hlast := congrArg (·.toList.getLast?) hb
    simp [he, closeBrace] at hlast

theorem IsValue.dropLastIf_line (h : IsValue v) {α : Type} (rest : List α) :
    Text.dropLastIf ',' (v ++ commaBefore rest).toList = v.toList := by
  obtain ⟨-, he⟩ | ⟨-, he⟩ := commaBefore_cases rest
  · simp [he, Text.dropLastIf, h.2.2.2.2]
  · simp [he, Text.dropLastIf]

theorem trimmed_values (h : ∀ v ∈ vs, IsValue v) : ∀ l ∈ numberLines n (valueLines vs), l.trimmed ≠ closeBrace := by
  induction vs generalizing n with
  | nil => nofun
  | cons v vs ih =>
    have hv := h v (by simp)
    rw [valueLines, numberLines, Text.dropTerminator_eq_self (hv.free_isLineEnd_line vs)]
    rintro l (_ | ⟨_, hl⟩)
    · rw [SourceLine.trimmed, hv.trim_line]
      exact hv.line_ne_brace vs
    · exact ih (fun w hw ↦ h w (.tail _ hw)) l hl

theorem rowsOf_values (h : ∀ v ∈ vs, IsValue v) (name : String) :
    rowsOf name (numberLines n (valueLines vs)) = vs.map (.row name) := by
  induction vs generalizing n with
  | nil => rfl
  | cons v vs ih =>
    have hv := h v (by simp)
    have htrim : (SourceLine.mk n ("  " ++ v ++ commaBefore vs)).trimmed = v ++ commaBefore vs := hv.trim_line vs
    have hne : v ++ commaBefore vs ≠ "" := by
      intro he
      exact hv.1 (String.append_eq_empty_iff.1 he).1
    have hvalue : Draft.rowValue ⟨n, "  " ++ v ++ commaBefore vs⟩ = v := by
      rw [Draft.rowValue, htrim, hv.dropLastIf_line, String.ofList_toList]
    have hrest := ih (n := n + 1) (fun w hw ↦ h w (.tail _ hw))
    rw [valueLines, numberLines, Text.dropTerminator_eq_self (hv.free_isLineEnd_line vs)]
    unfold rowsOf at hrest ⊢
    rw [List.filter_cons_of_pos (by rw [htrim]; exact decide_eq_true hne), List.map_cons, hvalue, hrest, List.map_cons]

end Values

theorem numberLines_block (n : Int) {first : String} (hf : Text.Free Text.isLineEnd first)
    (body : List String) : numberLines n (first :: body ++ [closeBrace]) =
      ⟨n, first⟩ :: numberLines (n + 1) body ++ [⟨n + 1 + body.length, closeBrace⟩] := by
  have hclose : Text.dropTerminator closeBrace = closeBrace := by decide
  rw [List.cons_append, numberLines, Text.dropTerminator_eq_self hf, numberLines_append]
  simp only [numberLines, hclose, List.cons_append]

theorem trimmed_close (n : Int) : (SourceLine.mk n closeBrace).trimmed = closeBrace := by
  have htrim : Text.trim closeBrace = closeBrace := by decide
  exact htrim

/-- A section of a document that says what a declaration says. -/
structure Declaration.Renders (d : Declaration) (s : Section) : Prop where
  fragments_eq : s.fragments = d.fragments
  tables_eq : s.tables = d.table?.toList
  lookups_eq : s.lookups = d.lookup?.toList
  findings_eq : s.findings = []

theorem Declaration.WellFormed.exists_section {d : Declaration} (h : d.WellFormed) (strict : Bool) (n : Int) :
    ∃ s : Section, s.lines = numberLines n d.lines ∧ s.Valid strict ∧ d.Renders s := by
  cases d with
  | record name as =>
    obtain ⟨hn, has⟩ := h
    have hk : IsWord "struct" := by decide
    refine ⟨.record ⟨n, header "struct" name⟩ name (Attribute.members (n + 1) 1 as)
      ⟨n + 1 + (Attribute.lines 1 as).length, closeBrace⟩, ?_, ⟨?_, blockName_header hk hn _,
        Attribute.valid_members has, SourceLine.kind_of_trimmed_brace (trimmed_close _)⟩, ⟨?_, rfl, rfl, ?_⟩⟩
    · rw [lines, numberLines_block n (free_isLineEnd_header hk hn), Section.lines, Attribute.line_members has]
    · simp [SourceLine.kind, tokens_header hk hn, LineKind.ofTokens]
    · rw [Section.fragments, Attribute.columns_members has (decide_eq_true (trimmed_close _))]
      rfl
    · exact Attribute.findings_members has name
  | enumeration name vs =>
    obtain ⟨hn, hvs⟩ := h
    have hk : IsWord "enum" := by decide
    refine ⟨.enumeration ⟨n, header "enum" name⟩ name (numberLines (n + 1) (valueLines vs))
      ⟨n + 1 + (valueLines vs).length, closeBrace⟩, ?_, ⟨?_, blockName_header hk hn _, trimmed_values hvs, trimmed_close _⟩,
        ⟨?_, rfl, rfl, rfl⟩⟩
    · rw [lines, numberLines_block n (free_isLineEnd_header hk hn), Section.lines]
    · simp [SourceLine.kind, tokens_header hk hn, LineKind.ofTokens]
    · rw [Section.fragments, rowsOf_values hvs]
      rfl

/-- The lines print the declarations, with empty lines around them. -/
inductive Prints : List String → List Declaration → Prop
  | nil : Prints [] []
  | empty {ls : List String} {ds : List Declaration} : Prints ls ds → Prints ("" :: ls) ds
  | declaration (d : Declaration) {ls : List String} {ds : List Declaration} :
      Prints ls ds → Prints (d.lines ++ ls) (d :: ds)

namespace Prints

variable {ls : List String} {ds : List Declaration}

theorem replicate_append (h : Prints ls ds) (gap : Nat) : Prints (List.replicate gap "" ++ ls) ds := by
  induction gap with
  | zero => exact h
  | succ gap ih => exact ih.empty

theorem schemaLines (gap : Nat) (ds : List Declaration) : Prints (schemaLines gap ds) ds := by
  induction ds with
  | nil => exact .nil
  | cons d ds ih =>
    have hd := (ih.replicate_append gap).declaration d
    rw [← List.append_assoc] at hd
    exact hd

theorem getLast?_lines (d : Declaration) : d.lines.getLast? = some closeBrace := by
  cases d with
  | record | enumeration => exact List.getLast?_concat

/-- Splitting a text into lines loses an empty last line, which says nothing. -/
theorem dropLast (h : Prints ls ds) (hl : ls.getLast? = some "") : Prints ls.dropLast ds := by
  induction h with
  | nil => exact .nil
  | @empty ls ds h ih =>
    cases ls with
    | nil => exact h
    | cons k ks => exact (ih hl).empty
  | @declaration d ls ds h ih =>
    by_cases hne : ls = []
    · subst hne
      rw [List.append_nil, getLast?_lines] at hl
      exact absurd hl (by decide)
    · rw [List.getLast?_append, Option.or_of_isSome (List.getLast?_isSome.2 hne)] at hl
      rw [List.dropLast_append_of_ne_nil hne]
      exact (ih hl).declaration d

theorem exists_document (h : Prints ls ds) (hw : ∀ d ∈ ds, d.WellFormed) (strict : Bool) (n : Int) :
    ∃ doc, Decomposes strict (numberLines n ls) doc ∧
      doc.flatMap Section.fragments = ds.flatMap Declaration.fragments ∧
      doc.flatMap Section.tables = ds.filterMap Declaration.table? ∧
      doc.flatMap Section.lookups = ds.filterMap Declaration.lookup? ∧
      doc.flatMap Section.findings = [] := by
  induction h generalizing n with
  | nil => exact ⟨[], ⟨rfl, nofun⟩, rfl, rfl, rfl, rfl⟩
  | @empty ls ds h ih =>
    obtain ⟨doc, ⟨hlines, hvalid⟩, hf, ht, hl, hfind⟩ := ih hw (n + 1)
    have hblank : (SourceLine.mk n "").IsNoise := by
      have htrim : Text.trim "" = "" := by decide
      exact .inl htrim
    refine ⟨.noise ⟨n, ""⟩ :: doc, ⟨?_, ?_⟩, hf, ht, hl, hfind⟩
    · have hterm : Text.dropTerminator "" = "" := by decide
      rw [List.flatMap_cons, hlines, numberLines, hterm]
      rfl
    · rintro s (_ | ⟨_, hs⟩)
      · exact hblank
      · exact hvalid s hs
  | @declaration d ls ds h ih =>
    obtain ⟨doc, ⟨hlines, hvalid⟩, hf, ht, hl, hfind⟩ := ih (fun e he ↦ hw e (.tail _ he)) (n + d.lines.length)
    obtain ⟨s, hslines, hsvalid, hrenders⟩ := (hw d (by simp)).exists_section strict n
    refine ⟨s :: doc, ⟨?_, ?_⟩, ?_, ?_, ?_, ?_⟩
    · rw [List.flatMap_cons, hlines, hslines, numberLines_append]
    · rintro t (_ | ⟨_, ht⟩)
      · exact hsvalid
      · exact hvalid t ht
    · rw [List.flatMap_cons, List.flatMap_cons, hf, hrenders.fragments_eq]
    · rw [List.flatMap_cons, ht, hrenders.tables_eq]
      cases d <;> rfl
    · rw [List.flatMap_cons, hl, hrenders.lookups_eq]
      cases d <;> rfl
    · rw [List.flatMap_cons, hfind, hrenders.findings_eq, List.append_nil]

end Prints

theorem Attribute.free_isLineEnd_lines {as : List Attribute} (h : ∀ a ∈ as, a.WellFormed) (i : Nat) :
    ∀ l ∈ lines i as, Text.Free Text.isLineEnd l := by
  induction as generalizing i with
  | nil => nofun
  | cons a as ih =>
    rintro l (_ | ⟨_, hl⟩)
    · exact (h a (by simp)).free_isLineEnd_line i as
    · exact ih (fun b hb ↦ h b (.tail _ hb)) (i + 1) l hl

theorem free_isLineEnd_valueLines {vs : List String} (h : ∀ v ∈ vs, IsValue v) :
    ∀ l ∈ valueLines vs, Text.Free Text.isLineEnd l := by
  induction vs with
  | nil => nofun
  | cons v vs ih =>
    rintro l (_ | ⟨_, hl⟩)
    · exact (h v (by simp)).free_isLineEnd_line vs
    · exact ih (fun w hw ↦ h w (.tail _ hw)) l hl

theorem Declaration.WellFormed.free_isLineEnd_lines {d : Declaration} (h : d.WellFormed) :
    ∀ l ∈ d.lines, Text.Free Text.isLineEnd l := by
  have hclose : Text.Free Text.isLineEnd closeBrace := by decide
  cases d with
  | record name as =>
    rintro l (_ | ⟨_, hl⟩)
    · exact free_isLineEnd_header (by decide) h.1
    · obtain hl | hl := List.mem_append.1 hl
      · exact Attribute.free_isLineEnd_lines h.2 1 l hl
      · rwa [List.mem_singleton.1 hl]
  | enumeration name vs =>
    rintro l (_ | ⟨_, hl⟩)
    · exact free_isLineEnd_header (by decide) h.1
    · obtain hl | hl := List.mem_append.1 hl
      · exact free_isLineEnd_valueLines h.2 l hl
      · rwa [List.mem_singleton.1 hl]

section SchemaText

variable {gap : Nat} {ds : List Declaration}

theorem free_isLineEnd_schemaLines (hw : ∀ d ∈ ds, d.WellFormed) :
    ∀ l ∈ schemaLines gap ds, Text.Free Text.isLineEnd l := by
  intro l hl
  obtain ⟨d, hd, hl⟩ := List.mem_flatMap.1 hl
  obtain hl | hl := List.mem_append.1 hl
  · exact (hw d hd).free_isLineEnd_lines l hl
  · obtain rfl := List.eq_of_mem_replicate hl
    nofun

theorem splitLines_schemaText (gap : Nat) (hw : ∀ d ∈ ds, d.WellFormed) :
    Prints (Text.splitLines (schemaText gap ds)) ds ∧
      ∀ l ∈ Text.splitLines (schemaText gap ds), l ∈ schemaLines gap ds := by
  have hp := Prints.schemaLines gap ds
  unfold schemaText
  rw [Text.splitLines_intercalate (free_isLineEnd_schemaLines hw)]
  by_cases hl : (schemaLines gap ds).getLast? = some ""
  · rw [if_pos hl]
    exact ⟨hp.dropLast hl, fun l hm ↦ List.dropLast_subset _ hm⟩
  · rw [if_neg hl]
    exact ⟨hp, fun l hm ↦ hm⟩

theorem Script.ofText_schemaText {o : Options} (hw : ∀ d ∈ ds, d.WellFormed)
    (hs : ∀ l ∈ schemaLines gap ds, l.length ≤ o.maxLineLength) :
    (ofText o (schemaText gap ds)).stop? = none ∧
      (ofText o (schemaText gap ds)).progress.draft.findings = #[] ∧
      (ofText o (schemaText gap ds)).progress.draft.tables = (ds.filterMap Declaration.table?).toArray ∧
      (ofText o (schemaText gap ds)).progress.draft.lookups = (ds.filterMap Declaration.lookup?).toArray ∧
      (ofText o (schemaText gap ds)).progress.draft.script = (ds.flatMap Declaration.fragments).toArray := by
  obtain ⟨hprints, hmem⟩ := splitLines_schemaText gap hw
  obtain ⟨doc, hd, hfrag, htables, hlookups, hfindings⟩ := hprints.exists_document hw o.strict 1
  have hshort : ∀ raw ∈ Text.splitLines (schemaText gap ds), (Text.dropTerminator raw).length ≤ o.maxLineLength := by
    intro raw hraw
    rw [Text.dropTerminator_eq_self (free_isLineEnd_schemaLines hw raw (hmem raw hraw))]
    exact hs raw (hmem raw hraw)
  rw [ofText, ofLines_document hd hshort]
  simp [Automaton.extend, documentAnswer, hfrag, htables, hlookups, hfindings]

end SchemaText

end SchemaDdl

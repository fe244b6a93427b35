import Mathlib.Algebra.GroupWithZero.Nat
import Mathlib.Computability.Language
import SchemaDdl.Proofs.LineEnds

namespace SchemaDdl

open Automaton
open scoped Computability

def IsHeaderLine (l : String) : Prop := "CREATE TABLE `".toList <+: l.toList ∧ "` (".toList <:+ l.toList

def IsColumnLine (l : String) : Prop := "\t`".toList <+: l.toList

def IsRowLine (l : String) : Prop := "INSERT INTO ".toList <+: l.toList ∧ "');".toList <:+ l.toList

def oneLine (P : String → Prop) : Language String := {ls | ∃ l, ls = [l] ∧ P l}

def recordLanguage : Language String :=
  oneLine IsHeaderLine * (oneLine IsColumnLine)∗ * {[");", ""]}

def lookupLanguage : Language String :=
  oneLine IsHeaderLine *
    {["\tID INT NOT NULL AUTO_INCREMENT PRIMARY KEY,", "\tVALUE VARCHAR(255) NOT NULL", ");", ""]} *
    (oneLine IsRowLine)∗

def scriptLanguage : Language String := (recordLanguage + lookupLanguage)∗

def opensTable (l : String) : Bool := "CREATE TABLE".toList.isPrefixOf l.toList

section Lines

variable {l : String}

theorem opensTable_eq_false {c : Char} {cs : List Char} (h : c :: cs <+: l.toList) (hc : c ≠ 'C') :
    opensTable l = false := by
  obtain ⟨t, ht⟩ := h
  have hfront : "CREATE TABLE".toList = 'C' :: "REATE TABLE".toList := rfl
  unfold opensTable
  rw [← ht, hfront, List.cons_append, List.isPrefixOf, beq_false_of_ne hc.symm, Bool.false_and]

theorem ne_footer {c : Char} {cs : List Char} (h : c :: cs <+: l.toList) (hc : c ≠ ')') : l ≠ ");" := by
  rintro rfl
  obtain ⟨t, ht⟩ := h
  exact hc (List.cons.inj ht).1

theorem IsHeaderLine.opensTable (h : IsHeaderLine l) : opensTable l = true ∧ l ≠ ");" := by
  have hstart : "CREATE TABLE".toList <+: "CREATE TABLE `".toList := by decide
  refine ⟨List.isPrefixOf_iff_prefix.2 (hstart.trans h.1), ne_footer h.1 (by decide)⟩

theorem IsColumnLine.opensTable (h : IsColumnLine l) : opensTable l = false ∧ l ≠ ");" :=
  ⟨opensTable_eq_false h (by decide), ne_footer h (by decide)⟩

theorem IsRowLine.opensTable (h : IsRowLine l) : opensTable l = false ∧ l ≠ ");" :=
  ⟨opensTable_eq_false h.1 (by decide), ne_footer h.1 (by decide)⟩

theorem count_of_forall {P : String → Prop} {ls : List String} (hP : ∀ l, P l → opensTable l = false ∧ l ≠ ");")
    (h : ∀ l ∈ ls, P l) : ls.countP opensTable = 0 ∧ ls.count ");" = 0 := by
  refine ⟨?_, ?_⟩
  · rw [List.countP_eq_zero]
    intro l hl
    simp [(hP l (h l hl)).1]
  · rw [List.count_eq_zero]
    intro hl
    exact (hP _ (h _ hl)).2 rfl

end Lines

section Languages

variable {P : String → Prop} {ls : List String}

theorem mem_kstar_oneLine : ls ∈ (oneLine P)∗ ↔ ∀ l ∈ ls, P l := by
  rw [Language.mem_kstar]
  constructor
  · rintro ⟨parts, rfl, h⟩ l hl
    obtain ⟨part, hpart, hl⟩ := List.mem_flatten.1 hl
    obtain ⟨k, rfl, hk⟩ := h part hpart
    rwa [List.mem_singleton.1 hl]
  · intro h
    refine ⟨ls.map fun l ↦ [l], by rw [← List.flatMap_def, List.flatMap_singleton'], ?_⟩
    intro part hpart
    obtain ⟨l, hl, rfl⟩ := List.mem_map.1 hpart
    exact ⟨l, rfl, h l hl⟩

theorem mem_recordLanguage : ls ∈ recordLanguage ↔
    ∃ header columns, IsHeaderLine header ∧ (∀ c ∈ columns, IsColumnLine c) ∧ ls = header :: (columns ++ [");", ""]) := by
  unfold recordLanguage
  constructor
  · rintro ⟨_, ⟨_, ⟨header, rfl, hh⟩, columns, hc, rfl⟩, _, rfl, rfl⟩
    exact ⟨header, columns, hh, mem_kstar_oneLine.1 hc, by simp⟩
  · rintro ⟨header, columns, hh, hc, rfl⟩
    have hfront := Language.append_mem_mul (show [header] ∈ oneLine IsHeaderLine from ⟨header, rfl, hh⟩)
      (mem_kstar_oneLine.2 hc)
    exact Language.append_mem_mul hfront (Set.mem_singleton [");", ""])

theorem mem_lookupLanguage : ls ∈ lookupLanguage ↔
    ∃ header rows, IsHeaderLine header ∧ (∀ r ∈ rows, IsRowLine r) ∧
      ls = header :: "\tID INT NOT NULL AUTO_INCREMENT PRIMARY KEY," :: "\tVALUE VARCHAR(255) NOT NULL" :: ");" :: "" ::
        rows := by
  unfold lookupLanguage
  constructor
  · rintro ⟨_, ⟨_, ⟨header, rfl, hh⟩, _, rfl, rfl⟩, rows, hr, rfl⟩
    exact ⟨header, rows, hh, mem_kstar_oneLine.1 hr, rfl⟩
  · rintro ⟨header, rows, hh, hr, rfl⟩
    have hfront := Language.append_mem_mul (show [header] ∈ oneLine IsHeaderLine from ⟨header, rfl, hh⟩)
      (Set.mem_singleton
        ["\tID INT NOT NULL AUTO_INCREMENT PRIMARY KEY,", "\tVALUE VARCHAR(255) NOT NULL", ");", ""])
    exact Language.append_mem_mul hfront (mem_kstar_oneLine.2 hr)

theorem count_block (h : ls ∈ recordLanguage + lookupLanguage) : ls.countP opensTable = 1 ∧ ls.count ");" = 1 := by
  obtain h | h := h
  · obtain ⟨header, columns, hh, hc, rfl⟩ := mem_recordLanguage.1 h
    obtain ⟨hopens, hne⟩ := hh.opensTable
    obtain ⟨hzero, hcount⟩ := count_of_forall (fun _ ↦ IsColumnLine.opensTable) hc
    have hfooter : [");", ""].countP opensTable = 0 := by decide
    simp [hopens, hne, hzero, hcount, hfooter]
  · obtain ⟨header, rows, hh, hr, rfl⟩ := mem_lookupLanguage.1 h
    obtain ⟨hopens, hne⟩ := hh.opensTable
    obtain ⟨hzero, hcount⟩ := count_of_forall (fun _ ↦ IsRowLine.opensTable) hr
    have hfixed : opensTable "\tID INT NOT NULL AUTO_INCREMENT PRIMARY KEY," = false ∧
        opensTable "\tVALUE VARCHAR(255) NOT NULL" = false ∧ opensTable ");" = false ∧ opensTable "" = false := by decide
    simp [hopens, hne, hzero, hcount, hfixed]

theorem count_script (h : ls ∈ scriptLanguage) : ls.countP opensTable = ls.count ");" := by
  obtain ⟨blocks, rfl, hblocks⟩ := Language.mem_kstar.1 h
  induction blocks with
  | nil => rfl
  | cons block blocks ih =>
    obtain ⟨hopens, hcount⟩ := count_block (hblocks block (by simp))
    have hrest := ih (fun b hb ↦ hblocks b (.tail _ hb)) (Language.join_mem_kstar fun b hb ↦ hblocks b (.tail _ hb))
    simp [hopens, hcount, hrest]

end Languages

/-- The lines of script that a section has. -/
def Section.scriptLines (s : Section) : List String := (s.fragments.flatMap Fragment.lines).map String.ofList

theorem prefix_suffix_ofList (front middle back : List Char) :
    front <+: (String.ofList (front ++ (middle ++ back))).toList ∧
      back <:+ (String.ofList (front ++ (middle ++ back))).toList := by
  rw [String.toList_ofList]
  refine ⟨List.prefix_append _ _, ?_⟩
  rw [← List.append_assoc]
  exact List.suffix_append _ _

theorem isHeaderLine_header (name : String) :
    ∀ l ∈ (Fragment.tableHeader name).lines, IsHeaderLine (String.ofList l) := by
  intro l hl
  obtain rfl := List.mem_singleton.1 hl
  exact prefix_suffix_ofList _ _ _

theorem isColumnLine_column (name type : String) (required last : Bool) :
    ∀ l ∈ (Fragment.column name type required last).lines, IsColumnLine (String.ofList l) := by
  intro l hl
  obtain rfl := List.mem_singleton.1 hl
  rw [List.append_assoc, List.append_assoc]
  exact (prefix_suffix_ofList _ _ _).1

theorem isRowLine_row (table value : String) : ∀ l ∈ (Fragment.row table value).lines, IsRowLine (String.ofList l) := by
  intro l hl
  obtain rfl := List.mem_singleton.1 hl
  rw [← List.append_assoc table.toList, ← List.append_assoc (table.toList ++ _)]
  exact prefix_suffix_ofList _ _ _

theorem Section.scriptLines_cases (s : Section) :
    s.scriptLines = [] ∧ s.tables.length + s.lookups.length = 0 ∨
      s.scriptLines ∈ recordLanguage + lookupLanguage ∧ s.tables.length + s.lookups.length = 1 := by
  cases s with
  | noise l => exact .inl ⟨rfl, rfl⟩
  | record header name members close =>
    refine .inr ⟨.inl (mem_recordLanguage.2 ⟨_, ((Member.columns close members).flatMap Fragment.lines).map String.ofList,
      isHeaderLine_header name _ (List.mem_singleton.2 rfl), ?_, ?_⟩), rfl⟩
    · intro c hc
      obtain ⟨w, hw, rfl⟩ := List.mem_map.1 hc
      obtain ⟨f, hf, hw⟩ := List.mem_flatMap.1 hw
      obtain ⟨l, field, last, -, rfl⟩ := Member.mem_columns hf
      exact isColumnLine_column _ _ _ _ w hw
    · simp [scriptLines, fragments, Fragment.lines]
  | enumeration header name body close =>
    refine .inr ⟨.inr (mem_lookupLanguage.2 ⟨_, ((rowsOf name body).flatMap Fragment.lines).map String.ofList,
      isHeaderLine_header name _ (List.mem_singleton.2 rfl), ?_, ?_⟩), rfl⟩
    · intro r hr
      obtain ⟨w, hw, rfl⟩ := List.mem_map.1 hr
      obtain ⟨f, hf, hw⟩ := List.mem_flatMap.1 hw
      obtain ⟨l, -, rfl⟩ := List.mem_map.1 hf
      exact isRowLine_row _ _ w hw
    · simp [scriptLines, fragments, Fragment.lines]

theorem documentLines_mem (doc : List Section) :
    doc.flatMap Section.scriptLines ∈ scriptLanguage ∧
      (doc.flatMap Section.scriptLines).countP opensTable =
        (doc.flatMap Section.tables).length + (doc.flatMap Section.lookups).length := by
  induction doc with
  | nil => exact ⟨Language.nil_mem_kstar _, rfl⟩
  | cons s doc ih =>
    obtain ⟨⟨blocks, hflat, hblocks⟩, hcount⟩ := ih
    rw [List.flatMap_cons, List.flatMap_cons, List.flatMap_cons, List.length_append, List.length_append]
    obtain ⟨hnil, hzero⟩ | ⟨hblock, hone⟩ := s.scriptLines_cases
    · rw [hnil, List.nil_append]
      exact ⟨⟨blocks, hflat, hblocks⟩, by omega⟩
    · refine ⟨⟨s.scriptLines :: blocks, by rw [hflat]; rfl, ?_⟩, ?_⟩
      · rintro b (_ | ⟨_, hb⟩)
        · exact hblock
        · exact hblocks b hb
      · rw [List.countP_append, (count_block hblock).1, hcount]
        omega

def Fragment.height : Fragment → Nat
  | .tableHeader _ => 1
  | .tableFooter => 2
  | .column .. => 1
  | .lookupColumns => 2
  | .row .. => 1

theorem Fragment.length_lines (f : Fragment) : f.lines.length = f.height := by
  cases f <;> rfl

def Outcome.scriptLines (s : Outcome) : List String := Text.splitLines (scriptText s.progress.draft.script)

namespace Script

/-- The lines of a script are blocks of a header, columns and a footer, or of a header, the two columns of a lookup
table, a footer and rows. There is one header and one footer for each table. Every line belongs to one fragment, and
how many lines a fragment has does not depend on the names and values in it. -/
theorem scriptLines_mem_scriptLanguage (o : Options) (content : String) (h : (ofText o content).stop? = none) :
    (ofText o content).scriptLines ∈ scriptLanguage ∧
      (ofText o content).scriptLines.countP opensTable = (ofText o content).scriptLines.count ");" ∧
      (ofText o content).scriptLines.count ");" =
        (ofText o content).progress.draft.tables.size + (ofText o content).progress.draft.lookups.size ∧
      (ofText o content).scriptLines =
        (ofText o content).progress.draft.script.toList.flatMap (fun f ↦ f.lines.map String.ofList) ∧
      (ofText o content).scriptLines.length =
        ((ofText o content).progress.draft.script.toList.map Fragment.height).sum := by
  obtain ⟨hs, doc, hd⟩ := document_of_succeeds h
  have hfree : ∀ l ∈ numberLines 1 (Text.splitLines content), Text.Free Text.isLineEnd l.text := by
    rw [forall_numberLines (P := Text.Free Text.isLineEnd)]
    intro raw hraw
    exact free_dropTerminator (Text.free_splitLines content raw hraw)
  have hunbroken : ∀ f ∈ doc.flatMap Section.fragments, f.Unbroken := by
    intro f hf
    obtain ⟨s, hsmem, hf⟩ := List.mem_flatMap.1 hf
    refine Section.unbroken_fragments (hd.valid s hsmem) ?_ f hf
    intro l hl
    exact hfree l (by rw [← hd.lines_eq]; exact List.mem_flatMap.2 ⟨s, hsmem, hl⟩)
  have hrun : ofText o content = ⟨extend {} (documentAnswer doc), none⟩ := ofLines_document hd hs
  have hscript : (ofText o content).progress.draft.script = (doc.flatMap Section.fragments).toArray := by
    simp [hrun, extend, documentAnswer]
  have hlines : (ofText o content).scriptLines = ((doc.flatMap Section.fragments).flatMap Fragment.lines).map String.ofList := by
    rw [Outcome.scriptLines, hscript, splitLines_scriptText hunbroken]
  have hdoc : (ofText o content).scriptLines = doc.flatMap Section.scriptLines := by
    rw [hlines, List.flatMap_assoc, List.map_flatMap]
    rfl
  obtain ⟨hmem, hcount⟩ := documentLines_mem doc
  refine ⟨hdoc ▸ hmem, hdoc ▸ count_script hmem, ?_, ?_, ?_⟩
  · rw [hdoc, ← count_script hmem, hcount]
    simp [hrun, extend, documentAnswer]
  · rw [hlines, hscript, List.map_flatMap]
  · rw [hlines, hscript, List.length_map, List.length_flatMap]
    simp only [Fragment.length_lines]

/-- A document whose names and values look like lines of a script. -/
def scriptLikeText : String :=
  "struct );` \x7b\n 1: required set stra\u00dfeX;\u2028 \x7d\r\nenum '); \x7b\n CREATE TABLE `x` (,\u0085);\x0b\x7d"

theorem scriptLikeText_mem_scriptLanguage :
    (ofText .standard scriptLikeText).stop? = none ∧
      (ofText .standard scriptLikeText).scriptLines ∈ scriptLanguage ∧
      (ofText .standard scriptLikeText).scriptLines.count ");" = 2 ∧
      (ofText .standard scriptLikeText).scriptLines.length = 11 := by
  have h : (ofText .standard scriptLikeText).stop? = none := by
    rw [ofText, ofLines_eq_run]
    decide +kernel
  obtain ⟨hmem, -, hcount, -, hlength⟩ := scriptLines_mem_scriptLanguage .standard scriptLikeText h
  refine ⟨h, hmem, ?_, ?_⟩
  · rw [hcount, ofText, ofLines_eq_run]
    decide +kernel
  · rw [hlength, ofText, ofLines_eq_run]
    decide +kernel

end Script

end SchemaDdl

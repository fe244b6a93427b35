import SchemaDdl.Proofs.Document
import SchemaDdl.Proofs.Simulation

namespace SchemaDdl.Automaton

variable {o : Options} {p : Progress} {name : String} {header close : SourceLine}

theorem answer_member (name : String) (header : SourceLine) {m : Member} {next : SourceLine}
    (hv : m.Valid o.strict) (hs : lengthStop? o m.line = none) (hn : lengthStop? o next = none) :
    answer o (.table name header) m.line (some next) =
      { block := .table name header, script := m.column next, findings := m.findings name, events := m.events } := by
  cases m with
  | noise l => exact answer_noise hs nofun hv.kind_eq
  | field l f =>
    obtain ⟨hk, hf, ht⟩ := hv
    have ha : answer o (.table name header) l (some next) = fieldAnswer o (.table name header) l (some next) :=
      answer_field hs nofun hk
    rw [Member.line, ha]
    simp only [fieldAnswer, hf, Option.bind_some, hn, Option.any_some, columnAnswer]
    cases hc : ColumnType.ofName? f.typeName with
    | some t => simp [Member.column, Member.findings, Member.events, hc]
    | none =>
      cases hl : o.strict with
      | true =>
        have hsome := ht hl
        rw [hc] at hsome
        cases hsome
      | false => simp [Member.column, Member.findings, Member.events, hc]

theorem runFrom_members (hp : p.draft.At (.table name header)) {members : List Member}
    (hv : ∀ m ∈ members, m.Valid o.strict) (hs : ∀ m ∈ members, lengthStop? o m.line = none)
    (hc : lengthStop? o close = none) (rest : List SourceLine) :
    runFrom o p (members.map Member.line ++ close :: rest) =
      runFrom o (extend p
        { block := .table name header
          script := Member.columns close members
          findings := members.flatMap (Member.findings name)
          events := members.flatMap Member.events }) (close :: rest) := by
  induction members generalizing p with
  | nil => simp only [List.map_nil, List.nil_append, Member.columns, List.flatMap_nil, extend_stay hp]
  | cons m members ih =>
    have hhead : (members.map Member.line ++ close :: rest).head? = some (Member.following close members) := by
      cases members <;> rfl
    have hshort : lengthStop? o (Member.following close members) = none := by
      cases members with
      | nil => exact hc
      | cons k ks => exact hs k (by simp)
    have ha := answer_member name header (hv m (by simp)) (hs m (by simp)) hshort
    rw [← hhead] at ha
    rw [List.map_cons, List.cons_append, runFrom_step hp.block_eq ha rfl,
      ih (at_extend p _) (fun k hk ↦ hv k (.tail _ hk)) (fun k hk ↦ hs k (.tail _ hk)), extend_extend]
    rfl

theorem runFrom_body (hp : p.draft.At (.lookup name header)) {body : List SourceLine}
    (hne : ∀ l ∈ body, l.trimmed ≠ closeBrace) (hs : ∀ l ∈ body, lengthStop? o l = none) (rest : List SourceLine) :
    runFrom o p (body ++ rest) =
      runFrom o (extend p { block := .lookup name header, script := rowsOf name body }) rest := by
  induction body generalizing p with
  | nil => simp only [List.nil_append, rowsOf, List.filter_nil, List.map_nil, extend_stay hp]
  | cons l body ih =>
    have ha : answer o (.lookup name header) l (body ++ rest).head? =
        { block := .lookup name header, script := rowsOf name [l] } := by
      rw [answer_lookup (hs l (by simp))]
      by_cases hblank : l.trimmed = ""
      · simp [lookupAnswer_blank hblank, rowsOf, hblank]
      · simp [lookupAnswer_row (hne l (by simp)) hblank, rowsOf, hblank]
    rw [List.cons_append, runFrom_step hp.block_eq ha rfl,
      ih (at_extend p _) (fun k hk ↦ hne k (.tail _ hk)) (fun k hk ↦ hs k (.tail _ hk)), extend_extend]
    have hrows : rowsOf name (l :: body) = rowsOf name [l] ++ rowsOf name body := rowsOf_append name [l] body
    rw [hrows]
    rfl

end SchemaDdl.Automaton

namespace SchemaDdl

open Automaton

def Section.answer (s : Section) : Answer where
  block := .outside
  script := s.fragments
  tables := s.tables
  lookups := s.lookups
  findings := s.findings
  events := s.events

def documentAnswer (doc : List Section) : Answer where
  block := .outside
  script := doc.flatMap Section.fragments
  tables := doc.flatMap Section.tables
  lookups := doc.flatMap Section.lookups
  findings := doc.flatMap Section.findings
  events := doc.flatMap Section.events

namespace Automaton

variable {o : Options} {p : Progress}

theorem runFrom_section (hp : p.draft.At .outside) {s : Section} (hv : s.Valid o.strict)
    (hs : ∀ l ∈ s.lines, lengthStop? o l = none) (rest : List SourceLine) :
    runFrom o p (s.lines ++ rest) = runFrom o (extend p s.answer) rest := by
  cases s with
  | noise l =>
    have ha : answer o .outside l rest.head? = { block := .outside } :=
      answer_noise (hs l (by simp [Section.lines])) nofun (SourceLine.IsNoise.kind_eq hv)
    rw [Section.lines, List.singleton_append, runFrom_step hp.block_eq ha rfl]
    rfl
  | record header name members close =>
    obtain ⟨hk, hn, hm, hc⟩ := hv
    have hh : lengthStop? o header = none := hs header (by simp [Section.lines])
    have hcs : lengthStop? o close = none := hs close (by simp [Section.lines])
    have hms : ∀ m ∈ members, lengthStop? o m.line = none := by
      intro m hm
      have hl : m.line ∈ members.map Member.line := List.mem_map_of_mem hm
      exact hs m.line (by simp [Section.lines, hl])
    have hopen (next? : Option SourceLine) : answer o .outside header next? =
        { block := .table name header
          script := [.tableHeader name]
          tables := [name]
          events := [.creatingTable name] } := by
      simp only [answer, hh, outsideAnswer, hk, hn]
    have hclose (next? : Option SourceLine) : answer o (.table name header) close next? =
        { block := .outside, script := [.tableFooter] } := by
      simp only [answer, hcs, tableAnswer, hc]
    have hlines : (Section.record header name members close).lines ++ rest =
        header :: (members.map Member.line ++ close :: rest) := by
      simp [Section.lines]
    rw [hlines, runFrom_step hp.block_eq (hopen _) rfl, runFrom_members (at_extend p _) hm hms hcs,
      runFrom_step rfl (hclose _) rfl,
      extend_extend, extend_extend]
    simp [Answer.andThen, Section.answer, Section.fragments, Section.tables, Section.lookups, Section.findings,
      Section.events]
  | enumeration header name body close =>
    obtain ⟨hk, hn, hne, hc⟩ := hv
    have hh : lengthStop? o header = none := hs header (by simp [Section.lines])
    have hcs : lengthStop? o close = none := hs close (by simp [Section.lines])
    have hbs : ∀ l ∈ body, lengthStop? o l = none := fun l hl ↦ hs l (by simp [Section.lines, hl])
    have hopen (next? : Option SourceLine) : answer o .outside header next? =
        { block := .lookup name header
          script := [.tableHeader name, .lookupColumns, .tableFooter]
          lookups := [name]
          events := [.creatingLookup name] } := by
      simp only [answer, hh, outsideAnswer, hk, hn]
    have hclose (next? : Option SourceLine) : answer o (.lookup name header) close next? = { block := .outside } := by
      rw [answer_lookup hcs, lookupAnswer_brace hc]
    have hlines : (Section.enumeration header name body close).lines ++ rest = header :: (body ++ close :: rest) := by
      simp [Section.lines]
    rw [hlines, runFrom_step hp.block_eq (hopen _) rfl, runFrom_body (at_extend p _) hne hbs,
      runFrom_step rfl (hclose _) rfl,
      extend_extend, extend_extend]
    simp [Answer.andThen, Section.answer, Section.fragments, Section.tables, Section.lookups, Section.findings,
      Section.events]

theorem runFrom_document (hp : p.draft.At .outside) {doc : List Section} (hv : ∀ s ∈ doc, s.Valid o.strict)
    (hs : ∀ l ∈ doc.flatMap Section.lines, lengthStop? o l = none) (rest : List SourceLine) :
    runFrom o p (doc.flatMap Section.lines ++ rest) = runFrom o (extend p (documentAnswer doc)) rest := by
  -- Every section leaves no block open, so that the next one starts as the first did.
  induction doc generalizing p with
  | nil => simp only [documentAnswer, List.flatMap_nil, List.nil_append, extend_stay hp]
  | cons s doc ih =>
    rw [List.flatMap_cons] at hs
    rw [List.flatMap_cons, List.append_assoc,
      runFrom_section hp (hv s (by simp)) (fun l hl ↦ hs l (List.mem_append_left _ hl)),
      ih (at_extend p _) (fun t ht ↦ hv t (.tail _ ht)) (fun l hl ↦ hs l (List.mem_append_right _ hl)), extend_extend]
    rfl

/-- How a line that does not stop the run changes the open block. -/
inductive Moves (strict : Bool) : Block → SourceLine → Block → Prop
  | noise {l : SourceLine} : l.kind = .noise → Moves strict .outside l .outside
  | openRecord {l : SourceLine} (name : String) :
      l.kind = .record → blockName (tokens l.text) l = .ok name → Moves strict .outside l (.table name l)
  | openEnumeration {l : SourceLine} (name : String) :
      l.kind = .enumeration → blockName (tokens l.text) l = .ok name → Moves strict .outside l (.lookup name l)
  | member (m : Member) {name : String} {header : SourceLine} :
      m.Valid strict → Moves strict (.table name header) m.line (.table name header)
  | closeRecord {l : SourceLine} {name : String} {header : SourceLine} :
      l.kind = .close → Moves strict (.table name header) l .outside
  | row {l : SourceLine} {name : String} {header : SourceLine} :
      l.trimmed ≠ closeBrace → Moves strict (.lookup name header) l (.lookup name header)
  | closeEnumeration {l : SourceLine} {name : String} {header : SourceLine} :
      l.trimmed = closeBrace → Moves strict (.lookup name header) l .outside

theorem fieldAnswer_go {b : Block} {l : SourceLine} {next? : Option SourceLine} (hk : l.kind = .field)
    (h : (fieldAnswer o b l next?).stop? = none) : Moves o.strict b l (fieldAnswer o b l next?).block := by
  unfold fieldAnswer at h ⊢
  cases hf : Field.ofTokens (tokens l.text) l with
  | error f => simp [hf, Answer.halt] at h
  | ok f =>
    cases hn : next?.bind (lengthStop? o) with
    | some s => simp [hf, hn] at h
    | none =>
      cases b with
      | outside | lookup => simp [hf, hn, Answer.halt] at h
      | table name header =>
        simp only [hf, hn, columnAnswer] at h ⊢
        cases hc : ColumnType.ofName? f.typeName with
        | some t => exact .member (.field l f) ⟨hk, hf, by simp [hc]⟩
        | none =>
          cases hs : o.strict with
          | true => simp [hc, hs, Answer.halt] at h
          | false =>
            have hlenient : (false = true) → (ColumnType.ofName? f.typeName).isSome := by
              intro h
              cases h
            exact .member (.field l f) ⟨hk, hf, hlenient⟩

theorem answer_go {b : Block} {l : SourceLine} {next? : Option SourceLine} (h : (answer o b l next?).stop? = none) :
    lengthStop? o l = none ∧ Moves o.strict b l (answer o b l next?).block := by
  cases hs : lengthStop? o l with
  | some s => simp [answer_long hs] at h
  | none =>
    refine ⟨rfl, ?_⟩
    cases b with
    | outside =>
      simp only [answer, hs, outsideAnswer] at h ⊢
      cases hk : l.kind with
      | record =>
        cases hn : blockName (tokens l.text) l with
        | error f => simp [hk, hn, Answer.halt] at h
        | ok name => exact .openRecord name hk hn
      | enumeration =>
        cases hn : blockName (tokens l.text) l with
        | error f => simp [hk, hn, Answer.halt] at h
        | ok name => exact .openEnumeration name hk hn
      | field =>
        simp only [hk] at h
        exact fieldAnswer_go hk h
      | close => simp [hk, Answer.halt] at h
      | noise => exact .noise hk
    | table outer header =>
      simp only [answer, hs, tableAnswer] at h ⊢
      cases hk : l.kind with
      | record | enumeration => cases hn : blockName (tokens l.text) l <;> simp [hk, hn, Answer.halt] at h
      | field =>
        simp only [hk] at h
        exact fieldAnswer_go hk h
      | close => exact .closeRecord hk
      | noise => exact .member (.noise l) (.inr hk)
    | lookup name header =>
      rw [answer_lookup hs]
      by_cases hc : l.trimmed = closeBrace
      · rw [lookupAnswer_brace hc]
        exact .closeEnumeration hc
      by_cases hblank : l.trimmed = ""
      · rw [lookupAnswer_blank hblank]
        exact .row hc
      · rw [lookupAnswer_row hc hblank]
        exact .row hc

/-- The lines that finish a document whose block `b` is open. -/
def Finishes (strict : Bool) : Block → List SourceLine → Prop
  | .outside, ls => ∃ doc, Decomposes strict ls doc
  | .table _ _, ls =>
    ∃ (members : List Member) (close : SourceLine) (rest : List SourceLine),
      ls = members.map Member.line ++ close :: rest ∧ (∀ m ∈ members, m.Valid strict) ∧ close.kind = .close ∧
        ∃ doc, Decomposes strict rest doc
  | .lookup _ _, ls =>
    ∃ (body : List SourceLine) (close : SourceLine) (rest : List SourceLine),
      ls = body ++ close :: rest ∧ (∀ l ∈ body, l.trimmed ≠ closeBrace) ∧ close.trimmed = closeBrace ∧
        ∃ doc, Decomposes strict rest doc

theorem Finishes.cons {strict : Bool} {b b' : Block} {l : SourceLine} {ls : List SourceLine} (hm : Moves strict b l b')
    (h : Finishes strict b' ls) : Finishes strict b (l :: ls) := by
  cases hm with
  | noise hk =>
    obtain ⟨doc, rfl, hv⟩ := h
    refine ⟨.noise l :: doc, rfl, ?_⟩
    rintro s (_ | ⟨_, hs⟩)
    · exact .inr hk
    · exact hv s hs
  | openRecord name hk hn =>
    obtain ⟨members, close, rest, rfl, hms, hc, doc, rfl, hv⟩ := h
    refine ⟨.record l name members close :: doc, by simp [Section.lines], ?_⟩
    rintro s (_ | ⟨_, hs⟩)
    · exact ⟨hk, hn, hms, hc⟩
    · exact hv s hs
  | openEnumeration name hk hn =>
    obtain ⟨body, close, rest, rfl, hb, hc, doc, rfl, hv⟩ := h
    refine ⟨.enumeration l name body close :: doc, by simp [Section.lines], ?_⟩
    rintro s (_ | ⟨_, hs⟩)
    · exact ⟨hk, hn, hb, hc⟩
    · exact hv s hs
  | member m hmv =>
    obtain ⟨members, close, rest, rfl, hms, hc, hdoc⟩ := h
    refine ⟨m :: members, close, rest, rfl, ?_, hc, hdoc⟩
    rintro k (_ | ⟨_, hk⟩)
    · exact hmv
    · exact hms k hk
  | closeRecord hk => exact ⟨[], l, ls, rfl, nofun, hk, h⟩
  | row hne =>
    obtain ⟨body, close, rest, rfl, hb, hc, hdoc⟩ := h
    refine ⟨l :: body, close, rest, rfl, ?_, hc, hdoc⟩
    rintro k (_ | ⟨_, hk⟩)
    · exact hne
    · exact hb k hk
  | closeEnumeration hc => exact ⟨[], l, ls, rfl, nofun, hc, h⟩

theorem finishes_of_runFrom {ls : List SourceLine} (h : (runFrom o p ls).stop? = none) :
    (∀ l ∈ ls, lengthStop? o l = none) ∧ Finishes o.strict p.draft.block ls := by
  -- The open block changes from line to line, so the progress is general.
  induction ls generalizing p with
  | nil =>
    rw [runFrom_nil] at h
    cases hb : p.draft.block with
    | outside => exact ⟨nofun, [], rfl, nofun⟩
    | table name header | lookup name header => simp [hb, endStop?] at h
  | cons l ls ih =>
    cases ha : (answer o p.draft.block l ls.head?).stop? with
    | some s => simp [runFrom_stop ha] at h
    | none =>
      rw [runFrom_cons ha] at h
      obtain ⟨hl, hm⟩ := answer_go ha
      obtain ⟨hs, hf⟩ := ih h
      rw [block_extend] at hf
      refine ⟨?_, .cons hm hf⟩
      rintro k (_ | ⟨_, hk⟩)
      · exact hl
      · exact hs k hk

end Automaton

theorem scriptText_eq_join (script : Array Fragment) :
    scriptText script = String.join (script.toList.map Fragment.text) := by
  simp [scriptText, String.join, List.foldl_map, ← Array.foldl_toList]

theorem join_flatMap_fragments (doc : List Section) :
    String.join ((doc.flatMap Section.fragments).map Fragment.text) = String.join (doc.map Section.text) := by
  induction doc with
  | nil => rfl
  | cons s doc ih =>
    rw [List.flatMap_cons, List.map_append, String.join_append, ih, List.map_cons, String.join_cons, Section.text]

theorem lengthStop?_eq_none_iff {o : Options} {l : SourceLine} :
    lengthStop? o l = none ↔ l.text.length ≤ o.maxLineLength := by
  simp [lengthStop?]

theorem forall_numberLines {P : String → Prop} (n : Int) (lines : List String) :
    (∀ l ∈ numberLines n lines, P l.text) ↔ ∀ raw ∈ lines, P (Text.dropTerminator raw) := by
  induction lines generalizing n with
  | nil => simp [numberLines]
  | cons raw lines ih => simp [numberLines, ih]

theorem numberLines_append (n : Int) (ls ks : List String) :
    numberLines n (ls ++ ks) = numberLines n ls ++ numberLines (n + ls.length) ks := by
  induction ls generalizing n with
  | nil => simp [numberLines]
  | cons l ls ih =>
    rw [List.cons_append, numberLines, numberLines, ih, List.cons_append, List.length_cons]
    have hn : n + 1 + (ls.length : Int) = n + (ls.length + 1 : Nat) := by omega
    rw [hn]

namespace Script

theorem ofLines_document {o : Options} {lines : List String} {doc : List Section}
    (hd : Decomposes o.strict (numberLines 1 lines) doc)
    (hs : ∀ raw ∈ lines, (Text.dropTerminator raw).length ≤ o.maxLineLength) :
    ofLines o lines = ⟨extend {} (documentAnswer doc), none⟩ := by
  rw [← forall_numberLines (P := (·.length ≤ o.maxLineLength)) 1, ← hd.lines_eq] at hs
  have hrun := runFrom_document (p := {}) rfl hd.valid (fun l hl ↦ lengthStop?_eq_none_iff.2 (hs l hl)) []
  rw [List.append_nil, hd.lines_eq, runFrom_nil] at hrun
  rw [ofLines_eq_run, Automaton.run, hrun]
  rfl

theorem document_of_succeeds {o : Options} {lines : List String} (h : (ofLines o lines).stop? = none) :
    (∀ raw ∈ lines, (Text.dropTerminator raw).length ≤ o.maxLineLength) ∧
      ∃ doc, Decomposes o.strict (numberLines 1 lines) doc := by
  rw [ofLines_eq_run] at h
  obtain ⟨hs, hf⟩ := finishes_of_runFrom h
  refine ⟨(forall_numberLines (P := (·.length ≤ o.maxLineLength)) 1 lines).1 fun l hl ↦ ?_, hf⟩
  exact lengthStop?_eq_none_iff.1 (hs l hl)

/-- A run succeeds exactly on the documents whose lines are short enough, a list of lines is a document in one way
only, and the script is the SQL of its sections in order. -/
theorem ofLines_succeeds_iff_document (o : Options) (lines : List String) :
    ((ofLines o lines).stop? = none ↔
      (∀ raw ∈ lines, (Text.dropTerminator raw).length ≤ o.maxLineLength) ∧
        ∃ doc, Decomposes o.strict (numberLines 1 lines) doc) ∧
    (∀ doc doc', Decomposes o.strict (numberLines 1 lines) doc → Decomposes o.strict (numberLines 1 lines) doc' →
      doc = doc') ∧
    (∀ doc, (ofLines o lines).stop? = none → Decomposes o.strict (numberLines 1 lines) doc →
      ∃ texts, List.Forall₂ Section.HasSql doc texts ∧
        scriptText (ofLines o lines).progress.draft.script = String.join texts) := by
  refine ⟨⟨document_of_succeeds, ?_⟩, fun doc doc' hd hd' ↦ hd.unique hd', ?_⟩
  · rintro ⟨hs, doc, hd⟩
    rw [ofLines_document hd hs]
  · intro doc h hd
    refine ⟨doc.map Section.text, ?_, ?_⟩
    · rw [List.forall₂_map_right_iff, List.forall₂_same]
      exact fun s _ ↦ s.hasSql_text
    · rw [ofLines_document hd (document_of_succeeds h).1, scriptText_eq_join, ← join_flatMap_fragments]
      simp [extend, documentAnswer]

end Script

end SchemaDdl

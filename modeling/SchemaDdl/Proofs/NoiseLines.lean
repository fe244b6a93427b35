import SchemaDdl.Proofs.Indentation
import SchemaDdl.Proofs.TrailingComma

namespace SchemaDdl

def Outcome.withScript (s : Outcome) (script : Array Fragment) : Outcome :=
  { s with progress := { s.progress with draft := { s.progress.draft with script } } }

namespace Automaton

variable {o : Options} {b : Block} {p q : Progress} {l : SourceLine} {next? next' : Option SourceLine}
  {as ns bs : List SourceLine}

theorem block_fieldAnswer : (fieldAnswer o b l next?).block = b := by
  unfold fieldAnswer
  cases Field.ofTokens (tokens l.text) l with
  | error f => rfl
  | ok field =>
    cases next?.bind (lengthStop? o) with
    | some s => rfl
    | none =>
      cases b with
      | outside | lookup => rfl
      | table block header =>
        dsimp only
        unfold columnAnswer
        split
        · rfl
        · split <;> rfl

theorem block_answer_congr : (answer o b l next?).block = (answer o b l next').block := by
  cases hs : lengthStop? o l with
  | some s => rw [answer_long hs, answer_long hs]
  | none =>
    by_cases ha : LooksAhead b l
    · rw [answer_field hs ha.1 ha.2.1, answer_field hs ha.1 ha.2.1, block_fieldAnswer, block_fieldAnswer]
    · rw [answer_congr fun h ↦ absurd h ha]

theorem glance_of_quiet (hs : ∀ k, next? = some k → lengthStop? o k = none) (hq : next?.any isBrace = false) :
    glance o next? = (none, false) := by
  cases next? with
  | none => rfl
  | some k => simpa [glance] using ⟨hs k rfl, hq⟩

/-- The line is passed over where `b` is open. -/
def PassedOver (o : Options) (b : Block) (l : SourceLine) : Prop :=
  lengthStop? o l = none ∧ l.kind = .noise ∧ ((∀ name header, b ≠ .lookup name header) ∨ l.trimmed = "")

theorem isBrace_of_kind_ne_close (h : l.kind ≠ .close) : isBrace l = false := by
  refine decide_eq_false ?_
  intro hb
  exact h (SourceLine.kind_of_trimmed_brace hb)

theorem answer_passedOver (h : PassedOver o b l) : answer o b l next? = { block := b } := by
  obtain ⟨hs, hk, hb⟩ := h
  cases b with
  | outside => exact answer_noise hs (by simp) hk
  | table name header => exact answer_noise hs (by simp) hk
  | lookup name header =>
    obtain hb | hblank := hb
    · exact absurd rfl (hb name header)
    · rw [answer_lookup hs, lookupAnswer_blank hblank]

theorem runFrom_passedOver (hp : p.draft.At b) (h : ∀ n ∈ ns, PassedOver o b n) (bs : List SourceLine) :
    runFrom o p (ns ++ bs) = runFrom o p bs := by
  induction ns with
  | nil => rfl
  | cons n ns ih =>
    have ha : answer o b n (ns ++ bs).head? = { block := b } := answer_passedOver (h n (by simp))
    rw [List.cons_append, runFrom_step hp.block_eq ha rfl, extend_stay hp, ih fun k hk ↦ h k (.tail n hk)]

theorem glance_passedOver (hn : ∀ n ∈ ns, PassedOver o b n) (hne : ns ≠ []) :
    glance o (ns ++ bs).head? = (none, false) := by
  obtain ⟨n, ns, rfl⟩ := List.exists_cons_of_ne_nil hne
  obtain ⟨hs, hk, -⟩ := hn n (by simp)
  refine glance_of_quiet ?_ ?_
  · intro k h
    cases h
    exact hs
  · exact isBrace_of_kind_ne_close (by simp [hk])

/-- Lines before `l` stop the run, whatever stands behind `l`, or they are all read. -/
theorem reads_or_stops (o : Options) (p : Progress) (as : List SourceLine) (l : SourceLine) :
    (∃ q, Reads o (some l) p as q) ∨ ∃ out, ∀ rest, runFrom o p (as ++ l :: rest) = out := by
  induction as generalizing p with
  | nil => exact .inl ⟨p, .nil p⟩
  | cons a as ih =>
    have hhead (rest : List SourceLine) : (as ++ l :: rest).head? = as.head?.or (some l) := by
      rw [List.head?_append, List.head?_cons]
    cases hs : (answer o p.draft.block a (as.head?.or (some l))).stop? with
    | some s =>
      refine .inr ⟨⟨extend p (answer o p.draft.block a (as.head?.or (some l))), some s⟩, fun rest ↦ ?_⟩
      rw [List.cons_append, runFrom_stop (by rw [hhead, hs]), hhead]
    | none =>
      obtain ⟨q, hq⟩ | ⟨out, hout⟩ := ih (extend p (answer o p.draft.block a (as.head?.or (some l))))
      · exact .inl ⟨q, .cons hs hq⟩
      · refine .inr ⟨out, fun rest ↦ ?_⟩
        rw [List.cons_append, runFrom_cons (by rw [hhead, hs]), hhead, hout]

theorem Reads.congr_next (h : Reads o next? p as q) (hn : glance o next? = glance o next') :
    Reads o next' p as q := by
  induction h with
  | nil p => exact .nil p
  | @cons p q l ls hgo _ ih =>
    have ha : answer o p.draft.block l (ls.head?.or next?) = answer o p.draft.block l (ls.head?.or next') := by
      cases ls with
      | nil => exact answer_congr fun _ ↦ hn
      | cons k ks => rfl
    rw [ha] at hgo ih
    exact .cons hgo ih

theorem Reads.block_concat (h : Reads o (some l) p as q) (next? : Option SourceLine) :
    (runFrom o p (as ++ [l])).progress.draft.block = (answer o q.draft.block l next?).block := by
  have hblock : (answer o q.draft.block l next?).block = (answer o q.draft.block l [].head?).block := block_answer_congr
  rw [Reads.runFrom_append [l] h, hblock]
  cases hs : (answer o q.draft.block l [].head?).stop? with
  | some s => rw [runFrom_stop hs, block_extend]
  | none => rw [runFrom_cons hs, runFrom_nil, block_extend]

/-- Lines that are passed over may stand behind `l`, if its answer is the same with them. -/
theorem runFrom_insert_behind (ha : answer o q.draft.block l (ns ++ bs).head? = answer o q.draft.block l bs.head?)
    (hn : ∀ n ∈ ns, PassedOver o (answer o q.draft.block l bs.head?).block n) :
    runFrom o q (l :: (ns ++ bs)) = runFrom o q (l :: bs) := by
  cases hs : (answer o q.draft.block l bs.head?).stop? with
  | some s => rw [runFrom_stop hs, runFrom_stop (by rw [ha, hs]), ha]
  | none =>
    rw [runFrom_cons hs, runFrom_cons (by rw [ha, hs]), ha]
    exact runFrom_passedOver (at_extend q _) hn bs

theorem runFrom_insert (hp : p.draft.Coherent) (hn : ∀ n ∈ ns, PassedOver o (runFrom o p as).progress.draft.block n)
    (hbs : ∀ k, bs.head? = some k → lengthStop? o k = none)
    (hquiet : ∀ l, as.getLast? = some l → l.kind = .field → bs.head?.any isBrace = false) :
    runFrom o p (as ++ (ns ++ bs)) = runFrom o p (as ++ bs) := by
  obtain rfl | ⟨as, l, rfl⟩ := as.eq_nil_or_concat'
  · exact runFrom_passedOver hp.at_block hn bs
  rw [List.append_assoc, List.append_assoc, List.singleton_append, List.singleton_append]
  obtain ⟨q, hq⟩ | ⟨out, hout⟩ := reads_or_stops o p as l
  · rw [hq.block_concat bs.head?] at hn
    rw [Reads.runFrom_append (l :: (ns ++ bs)) hq, Reads.runFrom_append (l :: bs) hq]
    by_cases hne : ns = []
    · rw [hne, List.nil_append]
    refine runFrom_insert_behind (answer_congr ?_) hn
    intro ha
    rw [glance_of_quiet hbs (hquiet l List.getLast?_concat ha.2.1)]
    exact glance_passedOver hn hne
  · rw [hout, hout]

/-- Whether a field is the last one of its table decides the comma of its column and nothing else. -/
theorem columnAnswer_last (o : Options) (block : String) (header l : SourceLine) (field : Field) :
    columnAnswer o block header l field true = columnAnswer o block header l field false ∨
      ∃ a : Answer, a.stop? = none ∧ a.block = .table block header ∧
        ∀ last, columnAnswer o block header l field last = { a with script := [field.column last] } := by
  unfold columnAnswer
  cases ColumnType.ofName? field.typeName with
  | some t => exact .inr ⟨{ block := .table block header }, rfl, rfl, fun last ↦ rfl⟩
  | none =>
    cases o.strict with
    | true => exact .inl rfl
    | false =>
      refine .inr ⟨{ block := .table block header, findings := _, events := _ }, rfl, rfl, fun last ↦ rfl⟩

/-- The outcomes differ in the comma of one column, which `out'` has and `out` has not. -/
def DifferInComma (pre : Array Fragment) (field : Field) (out out' : Outcome) : Prop :=
  ∃ post : Array Fragment, out.progress.draft.script = pre ++ [field.column true] ++ post ∧
    out' = out.withScript (pre ++ [field.column false] ++ post)

theorem differInComma_extend (q : Progress) (a : Answer) (field : Field) (bs : List SourceLine) :
    DifferInComma q.draft.script field (runFrom o (extend q { a with script := [field.column true] }) bs)
      (runFrom o (extend q { a with script := [field.column false] }) bs) := by
  have hrun (script : List Fragment) : runFrom o (extend q { a with script }) bs =
      (runFrom o (extend q a).emptied bs).after (extend q { a with script }) := runFrom_eq_after _ bs
  rw [hrun, hrun]
  exact ⟨_, rfl, rfl⟩

theorem block_answer_lookup (hs : lengthStop? o l = none) (hk : l.kind ≠ .close) (name : String) (header : SourceLine) :
    (answer o (.lookup name header) l next?).block = .lookup name header := by
  rw [answer_lookup hs, lookupAnswer, isBrace_of_kind_ne_close hk]
  split
  next h => cases h
  next => split <;> rfl

theorem runFrom_insert_before_brace (hk : l.kind = .field) (hs : lengthStop? o l = none)
    (hbs : ∀ k, bs.head? = some k → lengthStop? o k = none) (hbrace : bs.head?.any isBrace = true) (hne : ns ≠ [])
    (hb : ∀ name header, q.draft.block ≠ .lookup name header) (hn : ∀ n ∈ ns, PassedOver o q.draft.block n) :
    runFrom o q (l :: (ns ++ bs)) = runFrom o q (l :: bs) ∨
      ∃ field, Field.ofTokens (tokens l.text) l = .ok field ∧
        DifferInComma q.draft.script field (runFrom o q (l :: bs)) (runFrom o q (l :: (ns ++ bs))) := by
  have hglance : glance o (ns ++ bs).head? = (none, false) := glance_passedOver hn hne
  obtain ⟨hnext, hlast⟩ := Prod.mk.inj hglance
  have hnext' : bs.head?.bind (lengthStop? o) = none := Option.bind_eq_none_iff.2 hbs
  have ha : answer o q.draft.block l (ns ++ bs).head? = fieldAnswer o q.draft.block l (ns ++ bs).head? :=
    answer_field hs hb hk
  have ha' : answer o q.draft.block l bs.head? = fieldAnswer o q.draft.block l bs.head? := answer_field hs hb hk
  have same (h : fieldAnswer o q.draft.block l (ns ++ bs).head? = fieldAnswer o q.draft.block l bs.head?) :
      runFrom o q (l :: (ns ++ bs)) = runFrom o q (l :: bs) := by
    refine runFrom_insert_behind (by rw [ha, ha', h]) ?_
    rw [ha', block_fieldAnswer]
    exact hn
  cases hf : Field.ofTokens (tokens l.text) l with
  | error f => exact .inl (same (by simp only [fieldAnswer, hf]))
  | ok field =>
    cases hblock : q.draft.block with
    | outside => exact .inl (same (by simp only [fieldAnswer, hf, hnext, hnext', hblock]))
    | lookup name header => exact absurd hblock (hb name header)
    | table name header =>
      have hcol : fieldAnswer o q.draft.block l (ns ++ bs).head? = columnAnswer o name header l field false := by
        simp only [fieldAnswer, hf, hnext, hblock, hlast]
      have hcol' : fieldAnswer o q.draft.block l bs.head? = columnAnswer o name header l field true := by
        simp only [fieldAnswer, hf, hnext', hblock, hbrace]
      obtain heq | ⟨a, hgo, hstay, hdiff⟩ := columnAnswer_last o name header l field
      · exact .inl (same (by rw [hcol, hcol', heq]))
      · rw [hcol, hdiff] at ha
        rw [hcol', hdiff] at ha'
        have hpassed : ∀ n ∈ ns, PassedOver o a.block n := by
          rw [hstay, ← hblock]
          exact hn
        refine .inr ⟨field, rfl, ?_⟩
        rw [runFrom_step rfl ha hgo, runFrom_step rfl ha' hgo,
          runFrom_passedOver (at_extend q { a with script := [field.column false] }) hpassed]
        exact differInComma_extend q a field bs

theorem not_lookup_of_concat (hk : l.kind = .field) (hs : lengthStop? o l = none) (hq : Reads o (some l) p as q)
    (hout : ∀ name header, (runFrom o p (as ++ [l])).progress.draft.block ≠ .lookup name header) :
    ∀ name header, q.draft.block ≠ .lookup name header := by
  intro name header h
  apply hout name header
  rw [hq.block_concat none, h]
  exact block_answer_lookup hs (by simp [hk]) name header

theorem script_runFrom_of_reads (hk : l.kind = .field) (hs : lengthStop? o l = none) (hq : Reads o (some l) p as q) :
    (runFrom o p as).progress.draft.script = q.draft.script := by
  have hl : glance o (some l) = (none, false) := by
    refine glance_of_quiet ?_ (isBrace_of_kind_ne_close (by simp [hk]))
    intro k h
    cases h
    exact hs
  have hnone : glance o none = (none, false) := rfl
  rw [runFrom_of_reads (hq.congr_next (hl.trans hnone.symm))]

theorem runFrom_insert_between (p : Progress) (as : List SourceLine) (hk : l.kind = .field)
    (hs : lengthStop? o l = none) (hbs : ∀ k, bs.head? = some k → lengthStop? o k = none)
    (hbrace : bs.head?.any isBrace = true) (hne : ns ≠ [])
    (hout : ∀ name header, (runFrom o p (as ++ [l])).progress.draft.block ≠ .lookup name header)
    (hn : ∀ n ∈ ns, lengthStop? o n = none ∧ n.kind = .noise) :
    runFrom o p (as ++ l :: (ns ++ bs)) = runFrom o p (as ++ l :: bs) ∨
      ∃ field, Field.ofTokens (tokens l.text) l = .ok field ∧
        DifferInComma (runFrom o p as).progress.draft.script field (runFrom o p (as ++ l :: bs))
          (runFrom o p (as ++ l :: (ns ++ bs))) := by
  obtain ⟨q, hq⟩ | ⟨out, hstop⟩ := reads_or_stops o p as l
  · have hb := not_lookup_of_concat hk hs hq hout
    have hpassed : ∀ n ∈ ns, PassedOver o q.draft.block n := fun n h ↦ ⟨(hn n h).1, (hn n h).2, .inl hb⟩
    rw [Reads.runFrom_append _ hq, Reads.runFrom_append _ hq, script_runFrom_of_reads hk hs hq]
    exact runFrom_insert_before_brace hk hs hbs hbrace hne hb hpassed
  · rw [hstop, hstop]
    exact .inl rfl

end Automaton

open Automaton

/-- Lines behind the first `n` move down by `k`. -/
def Relabeling.inserting (n k : Nat) : Relabeling := .renumber fun i ↦ if i ≤ n then i else i + k

theorem numberLines_inserting_before {n : Nat} (k : Nat) {m : Int} {lines : List String} (h : m + lines.length ≤ n + 1) :
    (numberLines m lines).map (SourceLine.relabel (.inserting n k)) = numberLines m lines := by
  induction lines generalizing m with
  | nil => rfl
  | cons raw lines ih =>
    rw [List.length_cons] at h
    have hm : m ≤ n := by omega
    rw [numberLines, List.map_cons, ih (by omega)]
    simp [SourceLine.relabel, Relabeling.inserting, Relabeling.renumber, hm]

theorem numberLines_inserting_behind {n : Nat} (k : Nat) {m : Int} (h : n < m) (lines : List String) :
    (numberLines m lines).map (SourceLine.relabel (.inserting n k)) = numberLines (m + k) lines := by
  induction lines generalizing m with
  | nil => rfl
  | cons raw lines ih =>
    have hm : ¬m ≤ n := by omega
    have hnext : m + 1 + k = m + k + 1 := by omega
    rw [numberLines, numberLines, List.map_cons, ih (by omega), hnext]
    simp [SourceLine.relabel, Relabeling.inserting, Relabeling.renumber, hm]

/-- The outcomes name the same tables and lookups, and what `out'` says of lines is what `out` says of them,
relabelled. -/
structure Outcome.RelabelsTo (r : Relabeling) (out out' : Outcome) : Prop where
  tables_eq : out'.progress.draft.tables = out.progress.draft.tables
  lookups_eq : out'.progress.draft.lookups = out.progress.draft.lookups
  findings_eq : out'.progress.draft.findings = out.progress.draft.findings.map (Finding.relabel r)
  stop_eq : out'.stop? = out.stop?.map (Stop.relabel r)

theorem Field.exists_row (field : Field) :
    ∃ row, (field.column true).text = row ++ "\n" ∧ (field.column false).text = row ++ ",\n" := by
  refine ⟨"\t`" ++ ColumnName.ofField field.name ++ "` " ++ columnTypeText field.typeName ++ " " ++
    (if field.required then "NOT NULL" else ""), ?_, ?_⟩
  · rw [Field.text_column]
    simp
  · rw [Field.text_column]
    simp [String.append_assoc]

theorem scriptText_around (pre post : Array Fragment) (f : Fragment) :
    scriptText (pre ++ [f] ++ post) = scriptText pre ++ f.text ++ scriptText post := by
  simp [scriptText_eq_join, String.join_append, String.append_assoc]

/-- The lines leave an enumeration open. -/
def LeavesLookupOpen (o : Options) (lines : List String) : Prop :=
  ∃ name header, (Script.ofLines o lines).progress.draft.block = .lookup name header

/-- The last of the lines `xs` is a field, and the first of the lines `ys` a closing brace. -/
def BraceAfterField (xs ys : List String) : Prop :=
  ∃ last first, xs.getLast? = some last ∧ LineKind.ofTokens (tokens last) = .field ∧
    ys.head? = some first ∧ Text.trim first = closeBrace

theorem SourceLine.kind_numbered (n : Int) (raw : String) :
    (SourceLine.mk n (Text.dropTerminator raw)).kind = LineKind.ofTokens (tokens raw) := by
  rw [SourceLine.kind, tokens_congr (Text.trim_dropTerminator raw)]

theorem exists_of_mem_numberLines {n : Int} {lines : List String} {l : SourceLine} (h : l ∈ numberLines n lines) :
    ∃ raw ∈ lines, ∃ m, l = ⟨m, Text.dropTerminator raw⟩ := by
  obtain ⟨i, hi⟩ := List.getElem?_of_mem h
  obtain ⟨raw, hraw, rfl⟩ := exists_of_getElem?_numberLines hi
  exact ⟨raw, List.mem_of_getElem? hraw, _, rfl⟩

namespace Script

variable {o : Options} {xs ns ys : List String}

theorem passedOver_numberLines {b : Block} (hkeep : KeepsLimit o.maxLineLength ns)
    (hnoise : ∀ raw ∈ ns, Text.trim raw = "" ∨ LineKind.ofTokens (tokens raw) = .noise)
    (hplace : (∀ name header, b ≠ .lookup name header) ∨ ∀ raw ∈ ns, Text.trim raw = "") (m : Int) :
    ∀ n ∈ numberLines m ns, PassedOver o b n := by
  intro n hn
  obtain ⟨raw, hraw, i, rfl⟩ := exists_of_mem_numberLines hn
  refine ⟨lengthStop?_eq_none_iff.2 (hkeep raw hraw), ?_, ?_⟩
  · obtain hblank | hkind := hnoise raw hraw
    · exact SourceLine.kind_of_trimmed_empty ((Text.trim_dropTerminator raw).trans hblank)
    · rw [SourceLine.kind_numbered, hkind]
  · obtain hb | hblank := hplace
    · exact .inl hb
    · exact .inr ((Text.trim_dropTerminator raw).trans (hblank raw hraw))

theorem ofLines_insert_eq (o : Options) (xs ns ys : List String) :
    ofLines o (xs ++ ns ++ ys) = runFrom o {} (numberLines 1 xs ++
      (numberLines (1 + xs.length) ns ++ numberLines (1 + xs.length + ns.length) ys)) := by
  have hlength : (1 : Int) + (xs ++ ns).length = 1 + xs.length + ns.length := by
    rw [List.length_append]
    omega
  rw [ofLines_eq_run, Automaton.run, numberLines_append, numberLines_append, hlength, List.append_assoc]

theorem relabel_inserting_ofLines (o : Options) (xs ys : List String) (k : Nat) :
    (ofLines o (xs ++ ys)).relabel (.inserting xs.length k) =
      runFrom o {} (numberLines 1 xs ++ numberLines (1 + xs.length + k) ys) := by
  rw [ofLines_eq_run, Automaton.run, ← runFrom_relabel, Progress.relabel_start, numberLines_append, List.map_append,
    numberLines_inserting_before k (by omega), numberLines_inserting_behind k (by omega)]
  intro l _
  exact limitIgnores_of_text_eq rfl

theorem head?_numberLines (n : Int) (lines : List String) :
    (numberLines n lines).head? = lines.head?.map fun raw ↦ ⟨n, Text.dropTerminator raw⟩ := by
  cases lines <;> rfl

theorem any_isBrace_head? {n : Int} {first : String} (h : ys.head? = some first) :
    (numberLines n ys).head?.any isBrace = decide (Text.trim first = closeBrace) := by
  rw [head?_numberLines, h]
  simp only [Option.map_some, Option.any_some, isBrace, SourceLine.trimmed, Text.trim_dropTerminator]

theorem lengthStop?_head? {n : Int} (hkeep : KeepsLimit o.maxLineLength ys) :
    ∀ k, (numberLines n ys).head? = some k → lengthStop? o k = none := by
  intro k hk
  obtain ⟨raw, hraw, i, rfl⟩ := exists_of_mem_numberLines (List.mem_of_head? hk)
  exact lengthStop?_eq_none_iff.2 (hkeep raw hraw)

theorem ofLines_insert_quiet (hns : KeepsLimit o.maxLineLength ns) (hys : KeepsLimit o.maxLineLength ys)
    (hnoise : ∀ raw ∈ ns, Text.trim raw = "" ∨ LineKind.ofTokens (tokens raw) = .noise)
    (hplace : ¬LeavesLookupOpen o xs ∨ ∀ raw ∈ ns, Text.trim raw = "") (hquiet : ¬BraceAfterField xs ys) :
    ofLines o (xs ++ ns ++ ys) = (ofLines o (xs ++ ys)).relabel (.inserting xs.length ns.length) := by
  rw [ofLines_insert_eq, relabel_inserting_ofLines]
  refine runFrom_insert Draft.coherent_start (passedOver_numberLines hns hnoise ?_ _) (lengthStop?_head? hys) ?_
  · obtain hout | hblank := hplace
    · refine .inl fun name header h ↦ hout ⟨name, header, ?_⟩
      rw [ofLines_eq_run]
      exact h
    · exact .inr hblank
  · intro l hl hk
    cases hfirst : ys.head? with
    | none => rw [head?_numberLines, hfirst]; rfl
    | some first =>
      rw [any_isBrace_head? hfirst]
      refine decide_eq_false fun hbrace ↦ hquiet ?_
      obtain rfl | ⟨init, last, rfl⟩ := xs.eq_nil_or_concat'
      · cases hl
      · rw [numberLines_append, numberLines, numberLines, List.getLast?_concat] at hl
        cases hl
        rw [SourceLine.kind_numbered] at hk
        exact ⟨last, first, List.getLast?_concat, hk, hfirst, hbrace⟩

theorem ofLines_insert_before_brace {init : List String} {last first : String}
    (hlast : (Text.dropTerminator last).length ≤ o.maxLineLength) (hns : KeepsLimit o.maxLineLength ns)
    (hys : KeepsLimit o.maxLineLength ys)
    (hnoise : ∀ raw ∈ ns, Text.trim raw = "" ∨ LineKind.ofTokens (tokens raw) = .noise)
    (hout : ¬LeavesLookupOpen o (init ++ [last])) (hkind : LineKind.ofTokens (tokens last) = .field)
    (hfirst : ys.head? = some first) (hbrace : Text.trim first = closeBrace) (hne : ns ≠ []) :
    let out := (ofLines o (init ++ [last] ++ ys)).relabel (.inserting (init ++ [last]).length ns.length)
    let out' := ofLines o (init ++ [last] ++ ns ++ ys)
    out' = out ∨ ∃ field, Field.ofTokens (tokens last) ⟨1 + init.length, Text.dropTerminator last⟩ = .ok field ∧
      DifferInComma (ofLines o init).progress.draft.script field out out' := by
  dsimp only
  have hsplit : numberLines 1 (init ++ [last]) =
      numberLines 1 init ++ [⟨1 + init.length, Text.dropTerminator last⟩] := numberLines_append 1 init [last]
  have hlsne : numberLines (1 + (init ++ [last]).length) ns ≠ [] := by
    obtain ⟨n, ns, rfl⟩ := List.exists_cons_of_ne_nil hne
    exact List.cons_ne_nil _ _
  have hshort : ∀ n ∈ numberLines (1 + (init ++ [last]).length) ns, lengthStop? o n = none ∧ n.kind = .noise := by
    intro n hn
    obtain ⟨hs, hk, -⟩ := passedOver_numberLines (b := .outside) hns hnoise (.inl (by simp)) _ n hn
    exact ⟨hs, hk⟩
  have hany : (numberLines (1 + (init ++ [last]).length + ns.length) ys).head?.any isBrace = true := by
    rw [any_isBrace_head? hfirst]
    exact decide_eq_true hbrace
  have hclosed : ∀ name header, (runFrom o {} (numberLines 1 init ++
      [⟨1 + init.length, Text.dropTerminator last⟩])).progress.draft.block ≠ .lookup name header := by
    intro name header h
    refine hout ⟨name, header, ?_⟩
    rw [ofLines_eq_run, Automaton.run, hsplit, h]
  have hkind' : (SourceLine.mk (1 + init.length) (Text.dropTerminator last)).kind = .field := by
    rw [SourceLine.kind_numbered, hkind]
  have key := runFrom_insert_between {} (numberLines 1 init) hkind' (lengthStop?_eq_none_iff.2 hlast)
    (lengthStop?_head? hys) hany hlsne hclosed hshort
  rw [tokens_congr (Text.trim_dropTerminator last)] at key
  rw [ofLines_insert_eq, relabel_inserting_ofLines, hsplit, List.append_assoc, List.append_assoc,
    List.singleton_append, List.singleton_append, ofLines_eq_run o init]
  exact key

/-- Lines that say nothing only move the lines behind them down, unless they stand between a field and a closing brace:
there the column of the field may get a comma. Inside an enumeration this holds of blank lines. -/
theorem ofLines_insert_noise (o : Options) (xs ns ys : List String)
    (hkeep : KeepsLimit o.maxLineLength (xs ++ ns ++ ys))
    (hnoise : ∀ raw ∈ ns, Text.trim raw = "" ∨ LineKind.ofTokens (tokens raw) = .noise)
    (hplace : ¬LeavesLookupOpen o xs ∨ ∀ raw ∈ ns, Text.trim raw = "") :
    (¬BraceAfterField xs ys →
      (ofLines o (xs ++ ys)).RelabelsTo (.inserting xs.length ns.length) (ofLines o (xs ++ ns ++ ys)) ∧
        scriptText (ofLines o (xs ++ ns ++ ys)).progress.draft.script =
          scriptText (ofLines o (xs ++ ys)).progress.draft.script) ∧
    (BraceAfterField xs ys → ¬LeavesLookupOpen o xs → ns ≠ [] →
      (ofLines o (xs ++ ys)).RelabelsTo (.inserting xs.length ns.length) (ofLines o (xs ++ ns ++ ys)) ∧
        (scriptText (ofLines o (xs ++ ns ++ ys)).progress.draft.script =
            scriptText (ofLines o (xs ++ ys)).progress.draft.script ∨
          ∃ last field row post, xs.getLast? = some last ∧
            Field.ofTokens (tokens last) ⟨xs.length, Text.dropTerminator last⟩ = .ok field ∧
            (field.column true).text = row ++ "\n" ∧
            scriptText (ofLines o (xs ++ ys)).progress.draft.script =
              scriptText (ofLines o xs.dropLast).progress.draft.script ++ row ++ "\n" ++ post ∧
            scriptText (ofLines o (xs ++ ns ++ ys)).progress.draft.script =
              scriptText (ofLines o xs.dropLast).progress.draft.script ++ row ++ ",\n" ++ post)) := by
  obtain ⟨hxns, hys⟩ := List.forall_mem_append.1 hkeep
  obtain ⟨hxs, hns⟩ := List.forall_mem_append.1 hxns
  refine ⟨?_, ?_⟩
  · intro hquiet
    rw [ofLines_insert_quiet hns hys hnoise hplace hquiet]
    exact ⟨⟨rfl, rfl, rfl, rfl⟩, rfl⟩
  · rintro ⟨last, first, hlast, hkind, hfirst, hbrace⟩ hout hne
    obtain ⟨init, rfl⟩ := List.getLast?_eq_some_iff.1 hlast
    have hnumber : (1 : Int) + init.length = (init ++ [last]).length := by
      rw [List.length_append, List.length_singleton]
      omega
    obtain hsame | ⟨field, hfield, post, hscript, hwith⟩ :=
      ofLines_insert_before_brace (hxs last (by simp)) hns hys hnoise hout hkind hfirst hbrace hne
    · rw [hsame]
      exact ⟨⟨rfl, rfl, rfl, rfl⟩, .inl rfl⟩
    · obtain ⟨row, hrow, hrow'⟩ := field.exists_row
      have hscript : (ofLines o (init ++ [last] ++ ys)).progress.draft.script =
          (ofLines o init).progress.draft.script ++ [field.column true] ++ post := hscript
      rw [hnumber] at hfield
      rw [hwith]
      refine ⟨⟨rfl, rfl, rfl, rfl⟩, .inr ⟨last, field, row, scriptText post, hlast, hfield, hrow, ?_, ?_⟩⟩
      · rw [hscript, List.dropLast_concat, scriptText_around, hrow, ← String.append_assoc]
      · rw [Outcome.withScript, List.dropLast_concat, scriptText_around, hrow', ← String.append_assoc]

theorem not_leavesLookupOpen (name : String) (header : SourceLine)
    (h : (Automaton.run o xs).progress.draft.block = .table name header) : ¬LeavesLookupOpen o xs := by
  rintro ⟨name', header', hopen⟩
  rw [ofLines_eq_run, h] at hopen
  cases hopen

/-- Two lines between a field and its brace put a comma behind its column; above the field they move its finding and the
fault behind it down. -/
theorem ofLines_insert_comment :
    (∃ row post,
      scriptText (ofLines .standard ["struct A \x7b", " 1: required i32 id:", "\x7d"]).progress.draft.script =
          row ++ "\n" ++ post ∧
        scriptText (ofLines .standard ["struct A \x7b", " 1: required i32 id:", "", "// c", "\x7d"]).progress.draft.script =
          row ++ ",\n" ++ post) ∧
      (ofLines .standard ["struct A \x7b", "", "// c", " 1: optional map m", "\x7d", "\x7d"]).progress.draft.findings =
        #[⟨4, "A", "m", "map"⟩] ∧
      (ofLines .standard ["struct A \x7b", "", "// c", " 1: optional map m", "\x7d", "\x7d"]).stop? =
        some (.fault (.unbalanced ⟨6, "\x7d"⟩ .nothingToClose)) := by
  have hnoise : ∀ raw ∈ ["", "// c"], Text.trim raw = "" ∨ LineKind.ofTokens (tokens raw) = .noise := by
    simp only [List.forall_mem_cons]
    exact ⟨.inl (by decide), .inr (by decide), by simp⟩
  have hheader : ¬LeavesLookupOpen .standard ["struct A \x7b"] :=
    not_leavesLookupOpen "A" ⟨1, "struct A \x7b"⟩ (by decide +kernel)
  have hfield : ¬LeavesLookupOpen .standard ["struct A \x7b", " 1: required i32 id:"] :=
    not_leavesLookupOpen "A" ⟨1, "struct A \x7b"⟩ (by decide +kernel)
  refine ⟨?_, ?_⟩
  · have hbrace : BraceAfterField ["struct A \x7b", " 1: required i32 id:"] ["\x7d"] :=
      ⟨" 1: required i32 id:", "\x7d", rfl, by decide, rfl, by decide⟩
    obtain ⟨-, hcomma⟩ := ofLines_insert_noise .standard ["struct A \x7b", " 1: required i32 id:"] ["", "// c"] ["\x7d"]
      (by decide +kernel) hnoise (.inl hfield)
    obtain ⟨-, hsame | ⟨last, field, row, post, -, -, -, hbefore, hafter⟩⟩ := hcomma hbrace hfield (by simp)
    · rw [ofLines_eq_run, ofLines_eq_run] at hsame
      exact absurd hsame (by decide +kernel)
    · exact ⟨_, post, hbefore, hafter⟩
  · have hquiet : ¬BraceAfterField ["struct A \x7b"] [" 1: optional map m", "\x7d", "\x7d"] := by
      rintro ⟨last, first, hlast, hkind, -⟩
      cases hlast
      exact absurd hkind (by decide)
    obtain ⟨hmoves, -⟩ := ofLines_insert_noise .standard ["struct A \x7b"] ["", "// c"]
      [" 1: optional map m", "\x7d", "\x7d"] (by decide +kernel) hnoise (.inl hheader)
    obtain ⟨⟨-, -, hfindings, hstop⟩, -⟩ := hmoves hquiet
    rw [ofLines_eq_run .standard (["struct A \x7b"] ++ [" 1: optional map m", "\x7d", "\x7d"])] at hfindings hstop
    refine ⟨hfindings.trans ?_, hstop.trans ?_⟩
    · decide +kernel
    · decide +kernel

end Script

end SchemaDdl

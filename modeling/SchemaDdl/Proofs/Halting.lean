import SchemaDdl.Proofs.Acceptance

namespace SchemaDdl

theorem blockName_error_of_kind {l : SourceLine} {f : Fault} (hk : l.kind ≠ .noise)
    (h : blockName (tokens l.text) l = .error f) : ∃ cause, f = .malformed l cause := by
  unfold blockName at h
  cases ht : tokens l.text with
  | nil => exact absurd (by simp [SourceLine.kind, ht, LineKind.ofTokens]) hk
  | cons keyword rest =>
    cases rest with
    | nil =>
      simp only [ht, Except.error.injEq] at h
      exact ⟨_, h.symm⟩
    | cons name more =>
      by_cases hn : name = ""
      · simp only [ht, hn, if_true, Except.error.injEq] at h
        exact ⟨_, h.symm⟩
      · simp [ht, hn] at h

theorem Field.ofTokens_error {ts : List String} {l : SourceLine} {f : Fault} (h : Field.ofTokens ts l = .error f) :
    ∃ cause, f = .malformed l cause := by
  unfold Field.ofTokens at h
  split at h
  · dsimp only at h
    split at h
    · cases h
      exact ⟨_, rfl⟩
    · cases h
  · cases h
    exact ⟨_, rfl⟩

theorem Field.typeName_ofTokens {ts : List String} {l : SourceLine} {field : Field}
    (h : Field.ofTokens ts l = .ok field) : ts[2]? = some field.typeName := by
  unfold Field.ofTokens at h
  split at h
  · dsimp only at h
    split at h
    · cases h
    · cases h
      rfl
  · cases h

namespace Automaton

variable {o : Options} {b : Block} {l : SourceLine} {next? : Option SourceLine}

/-- The faults with which a line stops a run. -/
inductive Halts (o : Options) (b : Block) (l : SourceLine) (next? : Option SourceLine) : Fault → Prop
  | long : o.maxLineLength < l.text.length → Halts o b l next? (.lineTooLong l.number o.maxLineLength)
  | nextLong (k : SourceLine) : lengthStop? o l = none → next? = some k → o.maxLineLength < k.text.length →
      Halts o b l next? (.lineTooLong k.number o.maxLineLength)
  | malformed (cause : Malformed) : lengthStop? o l = none → Halts o b l next? (.malformed l cause)
  | nested (name outer : String) (header : SourceLine) : lengthStop? o l = none → b = .table outer header →
      Halts o b l next? (.unbalanced l (.opened name outer header.number))
  | nothingToClose : lengthStop? o l = none → Halts o b l next? (.unbalanced l .nothingToClose)
  | unmapped (field : Field) : lengthStop? o l = none → l.kind = .field →
      Field.ofTokens (tokens l.text) l = .ok field → Halts o b l next? (.unmappedType l.number field.typeName)

/-- The answer of a line that stops the run with one of its faults: the block stays, and the script gets nothing. -/
def IsHalt (o : Options) (b : Block) (l : SourceLine) (next? : Option SourceLine) (a : Answer) : Prop :=
  ∃ f events, Halts o b l next? f ∧ a = { block := b, events := events, stop? := some (.fault f) }

theorem lengthStop?_eq_some {s : Stop} (h : lengthStop? o l = some s) :
    o.maxLineLength < l.text.length ∧ s = .fault (.lineTooLong l.number o.maxLineLength) := by
  unfold lengthStop? at h
  split at h
  next hlong =>
    cases h
    exact ⟨hlong, rfl⟩
  next => cases h

theorem isHalt_column (hl : lengthStop? o l = none) (hk : l.kind = .field) {field : Field}
    (hf : Field.ofTokens (tokens l.text) l = .ok field) (block : String) (header : SourceLine) (last : Bool)
    (hs : (columnAnswer o block header l field last).stop? ≠ none) :
    IsHalt o (.table block header) l next? (columnAnswer o block header l field last) := by
  unfold columnAnswer at hs ⊢
  cases ht : ColumnType.ofName? field.typeName with
  | some t => simp [ht] at hs
  | none =>
    cases hstrict : o.strict with
    | false => simp [ht, hstrict] at hs
    | true => exact ⟨_, [], .unmapped field hl hk hf, rfl⟩

theorem isHalt_field (hl : lengthStop? o l = none) (hk : l.kind = .field)
    (hs : (fieldAnswer o b l next?).stop? ≠ none) : IsHalt o b l next? (fieldAnswer o b l next?) := by
  unfold fieldAnswer at hs ⊢
  cases hf : Field.ofTokens (tokens l.text) l with
  | error f =>
    obtain ⟨cause, rfl⟩ := Field.ofTokens_error hf
    exact ⟨_, [], .malformed cause hl, rfl⟩
  | ok field =>
    cases hn : next?.bind (lengthStop? o) with
    | some s =>
      obtain ⟨k, hnext, hstop⟩ := Option.bind_eq_some_iff.1 hn
      obtain ⟨hlong, rfl⟩ := lengthStop?_eq_some hstop
      exact ⟨_, [], .nextLong k hl hnext hlong, rfl⟩
    | none =>
      simp only [hf, hn] at hs
      cases b with
      | outside | lookup => exact ⟨_, [], .malformed _ hl, rfl⟩
      | table block header => exact isHalt_column hl hk hf block header _ hs

theorem isHalt_unnamed {f : Fault} (hl : lengthStop? o l = none) (hk : l.kind ≠ .noise)
    (hn : blockName (tokens l.text) l = .error f) : IsHalt o b l next? (.halt b f) := by
  obtain ⟨cause, rfl⟩ := blockName_error_of_kind hk hn
  exact ⟨_, [], .malformed cause hl, rfl⟩

theorem isHalt_outside (hl : lengthStop? o l = none) (hs : (outsideAnswer o l next?).stop? ≠ none) :
    IsHalt o .outside l next? (outsideAnswer o l next?) := by
  unfold outsideAnswer at hs ⊢
  cases hk : l.kind with
  | record | enumeration =>
    cases hn : blockName (tokens l.text) l with
    | error f => exact isHalt_unnamed hl (by simp [hk]) hn
    | ok name => simp [hk, hn] at hs
  | field =>
    simp only [hk] at hs
    exact isHalt_field hl hk hs
  | close => exact ⟨_, [], .nothingToClose hl, rfl⟩
  | noise => simp [hk] at hs

theorem isHalt_table {outer : String} {header : SourceLine} (hl : lengthStop? o l = none)
    (hs : (tableAnswer o outer header l next?).stop? ≠ none) :
    IsHalt o (.table outer header) l next? (tableAnswer o outer header l next?) := by
  unfold tableAnswer at hs ⊢
  cases hk : l.kind with
  | record | enumeration =>
    cases hn : blockName (tokens l.text) l with
    | error f => exact isHalt_unnamed hl (by simp [hk]) hn
    | ok name => exact ⟨_, _, .nested name outer header hl rfl, rfl⟩
  | field =>
    simp only [hk] at hs
    exact isHalt_field hl hk hs
  | close | noise => simp [hk] at hs

theorem stop?_lookupAnswer (name : String) (header l : SourceLine) : (lookupAnswer name header l).stop? = none := by
  unfold lookupAnswer
  split
  · rfl
  · split <;> rfl

theorem isHalt_answer {s : Stop} (h : (answer o b l next?).stop? = some s) :
    IsHalt o b l next? (answer o b l next?) := by
  have hs : (answer o b l next?).stop? ≠ none := by simp [h]
  unfold answer at hs ⊢
  cases hl : lengthStop? o l with
  | some s =>
    obtain ⟨hlong, rfl⟩ := lengthStop?_eq_some hl
    exact ⟨_, [], .long hlong, rfl⟩
  | none =>
    simp only [hl] at hs
    cases b with
    | outside => exact isHalt_outside hl hs
    | table outer header => exact isHalt_table hl hs
    | lookup name header => exact absurd (stop?_lookupAnswer name header l) hs

/-- The lines `ls` are read from `p` to `q`, and none of them stops the run. The line after them is `next?`. -/
inductive Reads (o : Options) (next? : Option SourceLine) : Progress → List SourceLine → Progress → Prop
  | nil (p : Progress) : Reads o next? p [] p
  | cons {p q : Progress} {l : SourceLine} {ls : List SourceLine} :
      (answer o p.draft.block l (ls.head?.or next?)).stop? = none →
      Reads o next? (extend p (answer o p.draft.block l (ls.head?.or next?))) ls q → Reads o next? p (l :: ls) q

theorem Reads.runFrom_append {p q : Progress} {ls : List SourceLine} (rest : List SourceLine)
    (h : Reads o rest.head? p ls q) : runFrom o p (ls ++ rest) = runFrom o q rest := by
  induction h with
  | nil p => rfl
  | cons hgo _ ih =>
    rw [← List.head?_append] at hgo ih
    rw [List.cons_append, runFrom_cons hgo, ih]

theorem Reads.lengthStop?_eq_none {p q : Progress} {ls : List SourceLine} (h : Reads o next? p ls q) :
    ∀ l ∈ ls, lengthStop? o l = none := by
  induction h with
  | nil p => simp
  | cons hgo _ ih => exact List.forall_mem_cons.2 ⟨(answer_go hgo).1, ih⟩

theorem reads_or_halts (o : Options) (p : Progress) (ls : List SourceLine) :
    (∃ q, Reads o none p ls q) ∨
    ∃ (pre : List SourceLine) (l : SourceLine) (rest : List SourceLine) (q : Progress) (s : Stop),
      ls = pre ++ l :: rest ∧ Reads o (some l) p pre q ∧ (answer o q.draft.block l rest.head?).stop? = some s := by
  induction ls generalizing p with
  | nil => exact .inl ⟨p, .nil p⟩
  | cons l ls ih =>
    cases hs : (answer o p.draft.block l ls.head?).stop? with
    | some s => exact .inr ⟨[], l, ls, p, s, rfl, .nil p, hs⟩
    | none =>
      obtain ⟨q, hq⟩ | ⟨pre, k, rest, q, s, rfl, hq, hk⟩ := ih (extend p (answer o p.draft.block l ls.head?))
      · refine .inl ⟨q, .cons ?_ ?_⟩
        · rw [Option.or_none]
          exact hs
        · rw [Option.or_none]
          exact hq
      · have hhead : (pre ++ k :: rest).head? = pre.head?.or (some k) := by rw [List.head?_append, List.head?_cons]
        rw [hhead] at hs hq
        exact .inr ⟨l :: pre, k, rest, q, s, rfl, .cons hs hq, hk⟩

theorem runFrom_of_reads {p q : Progress} {ls : List SourceLine} (h : Reads o none p ls q) :
    runFrom o p ls = ⟨q, endStop? q.draft.block⟩ := by
  have hrun := Reads.runFrom_append [] h
  rwa [List.append_nil] at hrun

theorem runFrom_of_halts {p q : Progress} {pre rest : List SourceLine} {s : Stop} (h : Reads o (some l) p pre q)
    (hs : (answer o q.draft.block l rest.head?).stop? = some s) :
    runFrom o p (pre ++ l :: rest) = ⟨extend q (answer o q.draft.block l rest.head?), some s⟩ := by
  rw [Reads.runFrom_append (l :: rest) h, runFrom_stop hs]

end Automaton

end SchemaDdl

import SchemaDdl.Proofs.Halting

namespace SchemaDdl

def Fault.lineNumber? : Fault → Option Int
  | .malformed line _ => some line.number
  | .unbalanced line _ => some line.number
  | .lineTooLong number _ => some number
  | .unmappedType number _ => some number
  | .noTokens => none
  | .noHeader => none

def Fault.IsNeverClosed : Fault → Prop
  | .unbalanced _ (.neverClosed _) => True
  | .unbalanced _ (.lookupNeverClosed _) => True
  | _ => False

/-- The fault is about the line `l`, and what it says of that line is so. -/
def Fault.About (o : Options) (l : SourceLine) : Fault → Prop
  | .malformed line _ => line = l
  | .unbalanced line _ => line = l
  | .lineTooLong number limit => number = l.number ∧ limit = o.maxLineLength ∧ o.maxLineLength < l.text.length
  | .unmappedType number typeName => number = l.number ∧ l.kind = .field ∧ (tokens l.text)[2]? = some typeName
  | .noTokens => False
  | .noHeader => False

theorem Fault.About.lineNumber?_eq {o : Options} {l : SourceLine} {f : Fault} (h : f.About o l) :
    f.lineNumber? = some l.number := by
  cases f with
  | malformed line cause | unbalanced line cause => exact congrArg (fun k : SourceLine ↦ some k.number) h
  | lineTooLong number limit | unmappedType number typeName => exact congrArg some h.1
  | noTokens | noHeader => cases h

namespace Automaton

variable {o : Options} {b : Block} {l : SourceLine} {next? : Option SourceLine}

theorem Halts.not_isNeverClosed {f : Fault} (h : Halts o b l next? f) : ¬f.IsNeverClosed := by
  intro hf
  cases h <;> exact hf

theorem Halts.about {f : Fault} (h : Halts o b l next? f) :
    f.About o l ∨ ∃ k, next? = some k ∧ f = .lineTooLong k.number o.maxLineLength ∧
      o.maxLineLength < k.text.length := by
  cases h with
  | long hlong => exact .inl ⟨rfl, rfl, hlong⟩
  | nextLong k hl hk hlong => exact .inr ⟨k, hk, rfl, hlong⟩
  | malformed cause hl => exact .inl rfl
  | nested name outer header hl hb => exact .inl rfl
  | nothingToClose hl => exact .inl rfl
  | unmapped field hl hk hf => exact .inl ⟨rfl, hk, Field.typeName_ofTokens hf⟩

/-- The block is open after the lines `read`: one of them is its header, and none after that ends it. -/
def Opened (read : List SourceLine) : Block → Prop
  | .outside => True
  | .table name header => ∃ before after, read = before ++ header :: after ∧ header.kind = .record ∧
      blockName (tokens header.text) header = .ok name ∧ ∀ l ∈ after, l.kind ≠ .close
  | .lookup name header => ∃ before after, read = before ++ header :: after ∧ header.kind = .enumeration ∧
      blockName (tokens header.text) header = .ok name ∧ ∀ l ∈ after, l.trimmed ≠ closeBrace

theorem Opened.concat {strict : Bool} {b' : Block} {read : List SourceLine} (h : Opened read b)
    (hm : Moves strict b l b') : Opened (read ++ [l]) b' := by
  cases hm with
  | noise | closeRecord | closeEnumeration => trivial
  | openRecord name hk hn => exact ⟨read, [], rfl, hk, hn, by simp⟩
  | openEnumeration name hk hn => exact ⟨read, [], rfl, hk, hn, by simp⟩
  | member m hv =>
    obtain ⟨before, after, rfl, hk, hn, ha⟩ := h
    refine ⟨before, after ++ [m.line], by simp, hk, hn, ?_⟩
    exact List.forall_mem_append.2 ⟨ha, List.forall_mem_singleton.2 hv.kind_ne_close⟩
  | row hne =>
    obtain ⟨before, after, rfl, hk, hn, ha⟩ := h
    refine ⟨before, after ++ [l], by simp, hk, hn, ?_⟩
    exact List.forall_mem_append.2 ⟨ha, List.forall_mem_singleton.2 hne⟩

theorem Reads.opened {p q : Progress} {ls : List SourceLine} (h : Reads o next? p ls q) (read : List SourceLine)
    (hp : Opened read p.draft.block) : Opened (read ++ ls) q.draft.block := by
  induction h generalizing read with
  | nil p => simpa using hp
  | @cons p q l ls hgo _ ih =>
    have hl : Opened (read ++ [l]) (extend p (answer o p.draft.block l (ls.head?.or next?))).draft.block := by
      rw [block_extend]
      exact hp.concat (answer_go hgo).2
    simpa using ih _ hl

theorem Opened.exists_getElem? {read : List SourceLine} {header : SourceLine} (h : Opened read b)
    (hb : b.header? = some header) : ∃ i : Nat, read[i]? = some header := by
  cases b with
  | outside => cases hb
  | table name header | lookup name header =>
    obtain ⟨before, after, rfl, -⟩ := h
    cases hb
    exact ⟨before.length, by simp⟩

/-- The line that stops a run, or the line after it, is the one that the fault is about. -/
theorem IsHalt.located {a : Answer} {pre rest : List SourceLine} (h : IsHalt o b l rest.head? a) (hb : Opened pre b) :
    ∃ f i k, a.stop? = some (.fault f) ∧ (pre ++ l :: rest)[i]? = some k ∧ pre.length ≤ i ∧ f.About o k ∧
      ¬f.IsNeverClosed ∧ ∀ line name outer n, f = .unbalanced line (.opened name outer n) →
        ∃ header, header.number = n ∧ Opened ((pre ++ l :: rest).take i) (.table outer header) := by
  obtain ⟨f, events, hf, rfl⟩ := h
  obtain hl | ⟨k, hk, rfl, hlong⟩ := hf.about
  · refine ⟨f, pre.length, l, rfl, by simp, Nat.le_refl _, hl, hf.not_isNeverClosed, ?_⟩
    rintro line name outer n rfl
    cases hf with
    | nested _ _ header _ hb' =>
      refine ⟨header, rfl, ?_⟩
      rw [List.take_left, ← hb']
      exact hb
  · have hi : (pre ++ l :: rest)[pre.length + 1]? = some k := by
      rw [List.getElem?_append_right (by omega)]
      simpa [List.head?_eq_getElem?] using hk
    refine ⟨_, pre.length + 1, k, rfl, hi, by omega, ⟨rfl, rfl, hlong⟩, hf.not_isNeverClosed, ?_⟩
    intro line name outer n hopened
    cases hopened

theorem endStop?_eq_some {header : SourceLine} {s : Stop} (h : endStop? b = some s) (hb : b.header? = some header) :
    ∃ f, s = .fault f ∧ f.IsNeverClosed ∧ f.About o header := by
  cases b with
  | outside => cases h
  | table name header | lookup name header =>
    cases h
    cases hb
    exact ⟨_, rfl, trivial, rfl⟩

theorem exists_append_of_take_eq {α : Type} {pre rest xs : List α} {x : α}
    (h : xs.take (pre.length + 2) = (pre ++ x :: rest).take (pre.length + 2)) :
    ∃ rest', xs = pre ++ x :: rest' ∧ rest'.head? = rest.head? := by
  induction pre generalizing xs with
  | nil =>
    cases xs with
    | nil => simp at h
    | cons y ys =>
      simp only [List.length_nil, List.nil_append, List.take_succ_cons, List.cons.injEq] at h
      obtain ⟨rfl, htail⟩ := h
      refine ⟨ys, rfl, ?_⟩
      have hhead := congrArg List.head? htail
      simpa [List.head?_take] using hhead
  | cons z pre ih =>
    cases xs with
    | nil => simp at h
    | cons y ys =>
      simp only [List.length_cons, List.cons_append, List.take_succ_cons, List.cons.injEq] at h
      obtain ⟨rfl, htail⟩ := h
      obtain ⟨rest', rfl, hhead⟩ := ih htail
      exact ⟨rest', rfl, hhead⟩

/-- What stops a run depends on the lines up to the one after it. -/
theorem runFrom_congr_of_halts {p q : Progress} {pre rest ls : List SourceLine} {s : Stop}
    (h : Reads o (some l) p pre q) (hs : (answer o q.draft.block l rest.head?).stop? = some s)
    (hls : ls.take (pre.length + 2) = (pre ++ l :: rest).take (pre.length + 2)) :
    runFrom o p ls = runFrom o p (pre ++ l :: rest) := by
  obtain ⟨rest', rfl, hhead⟩ := exists_append_of_take_eq hls
  rw [runFrom_of_halts h hs, runFrom_of_halts h (by rw [hhead, hs]), hhead]

end Automaton

theorem numberLines_take (n : Int) (lines : List String) (k : Nat) :
    (numberLines n lines).take k = numberLines n (lines.take k) := by
  induction lines generalizing n k with
  | nil => simp [numberLines]
  | cons raw lines ih =>
    cases k with
    | zero => rfl
    | succ k => rw [numberLines, List.take_succ_cons, List.take_succ_cons, numberLines, ih]

theorem getElem?_numberLines (n : Int) (lines : List String) (i : Nat) :
    (numberLines n lines)[i]? = lines[i]?.map fun raw ↦ ⟨i + n, Text.dropTerminator raw⟩ := by
  induction lines generalizing n i with
  | nil => rfl
  | cons raw lines ih =>
    cases i with
    | zero => simp [numberLines]
    | succ i =>
      have hn : (i : Int) + (n + 1) = (i + 1 : Nat) + n := by omega
      rw [numberLines, List.getElem?_cons_succ, List.getElem?_cons_succ, ih, hn]

theorem exists_of_getElem?_numberLines {n : Int} {lines : List String} {i : Nat} {l : SourceLine}
    (h : (numberLines n lines)[i]? = some l) : ∃ raw, lines[i]? = some raw ∧ l = ⟨i + n, Text.dropTerminator raw⟩ := by
  rw [getElem?_numberLines] at h
  obtain ⟨raw, hraw, rfl⟩ := Option.map_eq_some_iff.1 h
  exact ⟨raw, hraw, rfl⟩

open Automaton

namespace Script

/-- A run that stops names one of its lines, of which its fault is true. A block that is refused inside another one is
refused with the line of a header before it. If a block was left open at the end, the line is its header. Otherwise the
run depends on the lines up to the one after that line: every document with these lines has the same outcome. -/
theorem stop_names_line (o : Options) (lines : List String) (s : Stop) (h : (ofLines o lines).stop? = some s) :
    ∃ (f : Fault) (i : Nat) (raw : String), s = .fault f ∧ lines[i]? = some raw ∧ f.lineNumber? = some (i + 1) ∧
      f.About o ⟨i + 1, Text.dropTerminator raw⟩ ∧
      (∀ line name outer n, f = .unbalanced line (.opened name outer n) →
        ∃ header, header.number = n ∧ Opened (numberLines 1 (lines.take i)) (.table outer header)) ∧
      (f.IsNeverClosed →
        (ofLines o lines).progress.draft.block.header? = some ⟨i + 1, Text.dropTerminator raw⟩ ∧
        endStop? (ofLines o lines).progress.draft.block = some s ∧
        Opened (numberLines 1 lines) (ofLines o lines).progress.draft.block) ∧
      (¬f.IsNeverClosed → ∀ lines' : List String, lines'.take (i + 2) = lines.take (i + 2) →
        ofLines o lines' = ofLines o lines) := by
  have hrun : ofLines o lines = runFrom o {} (numberLines 1 lines) := ofLines_eq_run o lines
  obtain ⟨q, hq⟩ | ⟨pre, l, rest, q, s', hlines, hq, hs⟩ := reads_or_halts o {} (numberLines 1 lines)
  · -- all lines are read, and the block that is open at the end is at fault
    rw [runFrom_of_reads hq] at hrun
    rw [hrun] at h ⊢
    have hopen : Opened (numberLines 1 lines) q.draft.block := hq.opened [] trivial
    obtain hout | ⟨name, header, -, hheader⟩ := q.draft.block.outside_or_open
    · simp [hout, endStop?] at h
    obtain ⟨f, rfl, hnever, habout⟩ := endStop?_eq_some (o := o) h hheader
    obtain ⟨i, hi⟩ := hopen.exists_getElem? hheader
    obtain ⟨raw, hraw, rfl⟩ := exists_of_getElem?_numberLines hi
    refine ⟨f, i, raw, rfl, hraw, habout.lineNumber?_eq, habout, ?_, fun _ ↦ ⟨hheader, h, hopen⟩, absurd hnever⟩
    rintro line name outer n rfl
    cases hnever
  · have hstop : (ofLines o lines).stop? = some s' := by rw [hrun, hlines, runFrom_of_halts hq hs]
    rw [hstop] at h
    cases h
    have hopen : Opened pre q.draft.block := hq.opened [] trivial
    obtain ⟨f, i, k, hf, hk, hi, habout, hnever, hnested⟩ := (isHalt_answer hs).located hopen
    rw [hs] at hf
    cases hf
    rw [← hlines] at hk hnested
    obtain ⟨raw, hraw, rfl⟩ := exists_of_getElem?_numberLines hk
    rw [numberLines_take] at hnested
    refine ⟨f, i, raw, rfl, hraw, habout.lineNumber?_eq, habout, hnested, fun h ↦ absurd h hnever, fun _ ↦ ?_⟩
    intro lines' hagree
    have hnumbered : (numberLines 1 lines').take (i + 2) = (numberLines 1 lines).take (i + 2) := by
      rw [numberLines_take, numberLines_take, hagree]
    have htake : (numberLines 1 lines').take (pre.length + 2) = (pre ++ l :: rest).take (pre.length + 2) := by
      have hmin := congrArg (List.take (pre.length + 2)) hnumbered
      rwa [List.take_take, List.take_take, Nat.min_eq_left (by omega), hlines] at hmin
    rw [hrun, hlines, ofLines_eq_run]
    exact runFrom_congr_of_halts hq hs htake

def nestedRecords : List String :=
  ["enum E \x7b", "A", "\x7d", "struct A \x7b", "struct B \x7b\r\n", "\x7d", "\x7d"]

theorem stop_names_line_nested :
    (ofLines .standard nestedRecords).stop? = some (.fault (.unbalanced ⟨5, "struct B \x7b"⟩ (.opened "B" "A" 4))) ∧
      ∀ lines' : List String, lines'.take 6 = nestedRecords.take 6 →
        ofLines .standard lines' = ofLines .standard nestedRecords := by
  have h : (ofLines .standard nestedRecords).stop? =
      some (.fault (.unbalanced ⟨5, "struct B \x7b"⟩ (.opened "B" "A" 4))) := by
    rw [ofLines_eq_run]
    decide +kernel
  obtain ⟨f, i, raw, hf, -, hi, -, -, -, hcause⟩ := stop_names_line .standard nestedRecords _ h
  cases hf
  obtain rfl : i = 4 := by
    have hi : (5 : Int) = i + 1 := Option.some.inj hi
    omega
  exact ⟨h, hcause id⟩

end Script

end SchemaDdl

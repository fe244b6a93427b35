import SchemaDdl.Proofs.FaultLocation
import SchemaDdl.Proofs.Strictness

namespace SchemaDdl

def Options.withLineLimit (o : Options) (m : Nat) (hm : 0 < m) : Options :=
  { o with maxLineLength := m, maxLineLength_pos := hm }

/-- No line, less its terminator, has more than `m` characters. -/
def KeepsLimit (m : Nat) (lines : List String) : Prop := ∀ raw ∈ lines, (Text.dropTerminator raw).length ≤ m

instance (m : Nat) (lines : List String) : Decidable (KeepsLimit m lines) := List.decidableBAll _ lines

namespace Automaton

variable {o o' : Options} {b : Block} {l : SourceLine} {next? : Option SourceLine}

theorem fieldAnswer_congr_limit (hstrict : o.strict = o'.strict) (hn : next?.bind (lengthStop? o) = none)
    (hn' : next?.bind (lengthStop? o') = none) : fieldAnswer o b l next? = fieldAnswer o' b l next? := by
  unfold fieldAnswer
  rw [hn, hn']
  cases Field.ofTokens (tokens l.text) l with
  | error f => rfl
  | ok field =>
    cases b with
    | outside | lookup => rfl
    | table block header => simp only [columnAnswer, hstrict]

/-- Two limits give the same answer to a line that keeps both, if the line after it does so too or is not looked at. -/
theorem answer_congr_limit (hstrict : o.strict = o'.strict) (hl : lengthStop? o l = none)
    (hl' : lengthStop? o' l = none) (hn : LooksAhead b l → next?.bind (lengthStop? o) = none)
    (hn' : next?.bind (lengthStop? o') = none) : answer o b l next? = answer o' b l next? := by
  have field (hb : ∀ name header, b ≠ .lookup name header) (hk : l.kind = .field) :
      answer o b l next? = answer o' b l next? := by
    rw [answer_field hl hb hk, answer_field hl' hb hk]
    cases hf : Field.ofTokens (tokens l.text) l with
    | error f => simp only [fieldAnswer, hf]
    | ok field => exact fieldAnswer_congr_limit hstrict (hn ⟨hb, hk, field, hf⟩) hn'
  cases b with
  | outside =>
    cases hk : l.kind with
    | field => exact field (by simp) hk
    | record | enumeration | close | noise => simp only [answer, hl, hl', outsideAnswer, hk]
  | table outer header =>
    cases hk : l.kind with
    | field => exact field (by simp) hk
    | record | enumeration | close | noise => simp only [answer, hl, hl', tableAnswer, hk]
  | lookup name header => rw [answer_lookup hl, answer_lookup hl']

theorem next_keeps_of_go (hgo : (answer o b l next?).stop? = none) (ha : LooksAhead b l) :
    next?.bind (lengthStop? o) = none := by
  obtain ⟨hb, hk, field, hf⟩ := ha
  rw [answer_field (answer_go hgo).1 hb hk] at hgo
  cases hn : next?.bind (lengthStop? o) with
  | none => rfl
  | some s => simp [fieldAnswer, hf, hn] at hgo

theorem Reads.change_limit {p q : Progress} {ls : List SourceLine} (h : Reads o next? p ls q)
    (hstrict : o.strict = o'.strict) (hls : ∀ k ∈ ls, lengthStop? o' k = none)
    (hn : next?.bind (lengthStop? o') = none) : Reads o' next? p ls q := by
  induction h with
  | nil p => exact .nil p
  | @cons p q l ls hgo _ ih =>
    have hnext : (ls.head?.or next?).bind (lengthStop? o') = none := by
      cases ls with
      | nil => exact hn
      | cons k ks => exact hls k (by simp)
    have ha := answer_congr_limit hstrict (answer_go hgo).1 (hls l (by simp)) (next_keeps_of_go hgo) hnext
    have htail := ih fun k hk ↦ hls k (.tail _ hk)
    rw [ha] at hgo htail
    exact .cons hgo htail

theorem head?_bind_lengthStop? {ls : List SourceLine} (h : ∀ k ∈ ls, lengthStop? o k = none) :
    ls.head?.bind (lengthStop? o) = none := by
  cases ls with
  | nil => rfl
  | cons k ks => exact h k (by simp)

theorem runFrom_congr_limit (hstrict : o.strict = o'.strict) (p : Progress) {ls : List SourceLine}
    (h : ∀ k ∈ ls, lengthStop? o k = none) (h' : ∀ k ∈ ls, lengthStop? o' k = none) :
    runFrom o p ls = runFrom o' p ls := by
  induction ls generalizing p with
  | nil => rfl
  | cons l ls ih =>
    have hls : ∀ k ∈ ls, lengthStop? o k = none := fun k hk ↦ h k (.tail _ hk)
    have hls' : ∀ k ∈ ls, lengthStop? o' k = none := fun k hk ↦ h' k (.tail _ hk)
    have ha : answer o p.draft.block l ls.head? = answer o' p.draft.block l ls.head? :=
      answer_congr_limit hstrict (h l (by simp)) (h' l (by simp)) (fun _ ↦ head?_bind_lengthStop? hls)
        (head?_bind_lengthStop? hls')
    cases hs : (answer o p.draft.block l ls.head?).stop? with
    | some s => rw [runFrom_stop hs, runFrom_stop (by rw [← ha, hs]), ha]
    | none => rw [runFrom_cons hs, runFrom_cons (by rw [← ha, hs]), ha, ih _ hls hls']

theorem runFrom_prefix_of_keeps (hstrict : o.strict = o'.strict) (p : Progress) {ls : List SourceLine}
    (h' : ∀ k ∈ ls, lengthStop? o' k = none) :
    (runFrom o p ls).progress.draft.script.toList <+: (runFrom o' p ls).progress.draft.script.toList := by
  obtain ⟨q, hq⟩ | ⟨pre, l, rest, q, s, rfl, hq, hs⟩ := reads_or_halts o p ls
  · have hsame : runFrom o p ls = runFrom o' p ls := by
      rw [runFrom_of_reads hq, runFrom_of_reads (hq.change_limit hstrict h' rfl)]
    exact ⟨[], by rw [List.append_nil, hsame]⟩
  · have hpre : ∀ k ∈ pre, lengthStop? o' k = none := fun k hk ↦ h' k (List.mem_append_left _ hk)
    have hl : lengthStop? o' l = none := h' l (by simp)
    have hq' : Reads o' (some l) p pre q := hq.change_limit hstrict hpre hl
    obtain ⟨f, events, -, ha⟩ := isHalt_answer hs
    rw [runFrom_of_halts hq hs, ha, hq'.runFrom_append (l :: rest)]
    simpa [extend] using (prefix_runFrom o' q (l :: rest)).2

theorem exists_before_first {α : Type} {P : α → Prop} {xs ys r s : List α} {x y : α}
    (hys : ∀ a ∈ ys, ¬P a) (hy : ¬P y) (hx : P x) (h : xs ++ x :: r = ys ++ y :: s) : ∃ zs, xs = ys ++ y :: zs := by
  obtain ⟨as, rfl, htail⟩ | ⟨as, rfl, htail⟩ := List.append_eq_append_iff.1 h
  · cases as with
    | nil =>
      obtain ⟨rfl, -⟩ := List.cons.inj htail
      exact absurd hx hy
    | cons a as =>
      obtain ⟨rfl, -⟩ := List.cons.inj htail
      exact absurd hx (hys x (by simp))
  · cases as with
    | nil =>
      obtain ⟨rfl, -⟩ := List.cons.inj htail
      exact absurd hx hy
    | cons a as =>
      obtain ⟨rfl, -⟩ := List.cons.inj htail
      exact ⟨as, rfl⟩

theorem runFrom_of_first_long (p : Progress) {before : List SourceLine} (after : List SourceLine)
    (hb : ∀ k ∈ before, lengthStop? o k = none) (hl : o.maxLineLength < l.text.length) :
    ∃ f, (runFrom o p (before ++ l :: after)).stop? = some (.fault f) ∧
      (f = .lineTooLong l.number o.maxLineLength ∨
        (∀ n m, f ≠ .lineTooLong n m) ∧ ∃ (i : Nat) (k : SourceLine), before[i]? = some k ∧ f.About o k) := by
  have short {ks : List SourceLine} (h : ∀ k ∈ ks, lengthStop? o k = none) :
      ∀ k ∈ ks, ¬o.maxLineLength < k.text.length := by
    intro k hk
    exact Nat.not_lt.2 (lengthStop?_eq_none_iff.1 (h k hk))
  obtain ⟨q, hq⟩ | ⟨pre, j, rest, q, s, hls, hq, hs⟩ := reads_or_halts o p (before ++ l :: after)
  · exact absurd hl (short hq.lengthStop?_eq_none l (by simp))
  obtain ⟨f, events, hf, ha⟩ := isHalt_answer hs
  obtain rfl : s = .fault f := by
    rw [ha] at hs
    exact (Option.some.inj hs).symm
  have hpre := short hq.lengthStop?_eq_none
  -- a line before `l` that stops the run for another reason than its length
  have earlier (hj : lengthStop? o j = none) (hne : ∀ n m, f ≠ .lineTooLong n m) (habout : f.About o j) :
      f = .lineTooLong l.number o.maxLineLength ∨
        (∀ n m, f ≠ .lineTooLong n m) ∧ ∃ (i : Nat) (k : SourceLine), before[i]? = some k ∧ f.About o k := by
    have hj' : ¬o.maxLineLength < j.text.length := Nat.not_lt.2 (lengthStop?_eq_none_iff.1 hj)
    obtain ⟨more, rfl⟩ := exists_before_first hpre hj' hl hls
    exact .inr ⟨hne, pre.length, j, by simp, habout⟩
  rw [hls, runFrom_of_halts hq hs]
  refine ⟨f, rfl, ?_⟩
  cases hf with
  | long hj =>
    obtain ⟨-, rfl, -⟩ := append_cons_inj_of_first (short hb) hpre hl hj hls
    exact .inl rfl
  | nextLong k hj hk hlong =>
    obtain ⟨rest, rfl⟩ := List.head?_eq_some_iff.1 hk
    have hls' : before ++ l :: after = (pre ++ [j]) ++ k :: rest := by simpa using hls
    have hpre' : ∀ i ∈ pre ++ [j], lengthStop? o i = none :=
      List.forall_mem_append.2 ⟨hq.lengthStop?_eq_none, List.forall_mem_singleton.2 hj⟩
    obtain ⟨-, rfl, -⟩ := append_cons_inj_of_first (short hb) (short hpre') hl hlong hls'
    exact .inl rfl
  | malformed cause hj => exact earlier hj (by simp) rfl
  | nested name outer header hj hb => exact earlier hj (by simp) rfl
  | nothingToClose hj => exact earlier hj (by simp) rfl
  | unmapped field hj hk hf => exact earlier hj (by simp) ⟨rfl, hk, Field.typeName_ofTokens hf⟩

end Automaton

open Automaton

theorem lengthStop?_of_keepsLimit {o : Options} {m : Nat} {hm : 0 < m} {lines : List String} (n : Int)
    (h : KeepsLimit m lines) : ∀ k ∈ numberLines n lines, lengthStop? (o.withLineLimit m hm) k = none := by
  intro k hk
  rw [lengthStop?_eq_none_iff]
  exact (forall_numberLines (P := (·.length ≤ m)) n lines).2 h k hk

namespace Script

variable (o : Options) (lines : List String) (m : Nat) (hm : 0 < m)

theorem ofLines_congr_limit (hkeep : KeepsLimit m lines) {M : Nat} (hM : 0 < M) (hkeep' : KeepsLimit M lines) :
    ofLines (o.withLineLimit m hm) lines = ofLines (o.withLineLimit M hM) lines := by
  have hstrict : (o.withLineLimit m hm).strict = (o.withLineLimit M hM).strict := rfl
  rw [ofLines_eq_run, ofLines_eq_run]
  exact runFrom_congr_limit hstrict {} (lengthStop?_of_keepsLimit 1 hkeep) (lengthStop?_of_keepsLimit 1 hkeep')

theorem scriptText_prefix_of_keeps {M : Nat} (hM : 0 < M) (hkeep : KeepsLimit M lines) :
    (scriptText (ofLines (o.withLineLimit m hm) lines).progress.draft.script).toList <+:
      (scriptText (ofLines (o.withLineLimit M hM) lines).progress.draft.script).toList := by
  have hstrict : (o.withLineLimit m hm).strict = (o.withLineLimit M hM).strict := rfl
  rw [ofLines_eq_run, ofLines_eq_run]
  exact toList_scriptText_prefix (runFrom_prefix_of_keeps hstrict {} (lengthStop?_of_keepsLimit 1 hkeep))

theorem stop_of_first_long {n : Nat} {raw : String} (hraw : lines[n]? = some raw)
    (hlong : m < (Text.dropTerminator raw).length) (hfirst : KeepsLimit m (lines.take n)) :
    ∃ f, (ofLines (o.withLineLimit m hm) lines).stop? = some (.fault f) ∧
      (f = .lineTooLong (n + 1) m ∨
        (∀ k limit, f ≠ .lineTooLong k limit) ∧ ∃ i : Nat, i < n ∧ f.lineNumber? = some (i + 1)) := by
  have hget : (numberLines 1 lines)[n]? = some ⟨n + 1, Text.dropTerminator raw⟩ := by
    rw [getElem?_numberLines, hraw, Option.map_some]
  obtain ⟨hn, hget⟩ := List.getElem?_eq_some_iff.1 hget
  have hlines : numberLines 1 lines = numberLines 1 (lines.take n) ++
      ⟨n + 1, Text.dropTerminator raw⟩ :: (numberLines 1 lines).drop (n + 1) := by
    rw [← numberLines_take, ← hget, ← List.drop_eq_getElem_cons hn, List.take_append_drop]
  have hkeep : ∀ k ∈ numberLines 1 (lines.take n), lengthStop? (o.withLineLimit m hm) k = none :=
    lengthStop?_of_keepsLimit 1 hfirst
  have hlong : (o.withLineLimit m hm).maxLineLength <
      (SourceLine.mk (n + 1) (Text.dropTerminator raw)).text.length := hlong
  obtain ⟨f, hstop, hf⟩ := runFrom_of_first_long {} ((numberLines 1 lines).drop (n + 1)) hkeep hlong
  rw [← hlines] at hstop
  rw [ofLines_eq_run]
  refine ⟨f, hstop, ?_⟩
  obtain hf | ⟨hne, i, k, hk, habout⟩ := hf
  · exact .inl hf
  · obtain ⟨raw', hraw', rfl⟩ := exists_of_getElem?_numberLines hk
    obtain ⟨hi, -⟩ := List.getElem?_eq_some_iff.1 hraw'
    have hi : i < n := Nat.lt_of_lt_of_le hi (List.length_take_le n lines)
    exact .inr ⟨hne, i, hi, habout.lineNumber?_eq⟩

/-- A limit that all lines keep has no effect on a run. Under a limit that some line breaks, the run stops with the
first such line or with another fault of a line before it, and what it writes is a first part of what it writes under a
limit that all lines keep. So it succeeds exactly if all lines keep the limit and it succeeds under a limit that they
keep. -/
theorem effect_of_line_limit (o : Options) (lines : List String) (m : Nat) (hm : 0 < m) :
    (KeepsLimit m lines → ∀ (M : Nat) (hM : 0 < M), KeepsLimit M lines →
      ofLines (o.withLineLimit m hm) lines = ofLines (o.withLineLimit M hM) lines) ∧
    (∀ (n : Nat) (raw : String), lines[n]? = some raw → m < (Text.dropTerminator raw).length →
      KeepsLimit m (lines.take n) →
      (∃ f, (ofLines (o.withLineLimit m hm) lines).stop? = some (.fault f) ∧
        (f = .lineTooLong (n + 1) m ∨
          (∀ k limit, f ≠ .lineTooLong k limit) ∧ ∃ i : Nat, i < n ∧ f.lineNumber? = some (i + 1))) ∧
      ∀ (M : Nat) (hM : 0 < M), KeepsLimit M lines →
        (scriptText (ofLines (o.withLineLimit m hm) lines).progress.draft.script).toList <+:
          (scriptText (ofLines (o.withLineLimit M hM) lines).progress.draft.script).toList) ∧
    (∀ (M : Nat) (hM : 0 < M), KeepsLimit M lines →
      ((ofLines (o.withLineLimit m hm) lines).stop? = none ↔
        (ofLines (o.withLineLimit M hM) lines).stop? = none ∧ KeepsLimit m lines)) := by
  refine ⟨?_, ?_, ?_⟩
  · intro hkeep M hM hkeep'
    exact ofLines_congr_limit o lines m hm hkeep hM hkeep'
  · intro n raw hraw hlong hfirst
    refine ⟨stop_of_first_long o lines m hm hraw hlong hfirst, ?_⟩
    intro M hM hkeep
    exact scriptText_prefix_of_keeps o lines m hm hM hkeep
  · intro M hM hkeep'
    constructor
    · intro h
      have hkeep : KeepsLimit m lines := (document_of_succeeds h).1
      rw [← ofLines_congr_limit o lines m hm hkeep hM hkeep']
      exact ⟨h, hkeep⟩
    · rintro ⟨h, hkeep⟩
      rw [ofLines_congr_limit o lines m hm hkeep hM hkeep']
      exact h

def commentAfterField : List String :=
  ["struct A \x7b", " 1: required i32 id", "// a line that is too long", "\x7d"]

/-- The third line is looked at, and found too long, before the column of the second one is written. -/
theorem line_limit_before_column :
    0 < 20 ∧
      (ofLines (Options.standard.withLineLimit 20 (by decide)) commentAfterField).stop? =
        some (.fault (.lineTooLong 3 20)) ∧
      (scriptText (ofLines (Options.standard.withLineLimit 20 (by decide))
          commentAfterField).progress.draft.script).toList <+:
        (scriptText (ofLines (Options.standard.withLineLimit 26 (by decide))
          commentAfterField).progress.draft.script).toList := by
  have hkeep : KeepsLimit 26 commentAfterField := by decide +kernel
  refine ⟨by decide, ?_, ?_⟩
  · rw [ofLines_eq_run]
    decide +kernel
  · obtain ⟨-, hlong, -⟩ := effect_of_line_limit .standard commentAfterField 20 (by decide)
    exact (hlong 2 "// a line that is too long" rfl (by decide +kernel) (by decide +kernel)).2 26 (by decide) hkeep

end Script

end SchemaDdl

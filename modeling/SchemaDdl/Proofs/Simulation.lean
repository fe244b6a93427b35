import SchemaDdl.Proofs.Automaton

namespace SchemaDdl

open Automaton

/-- The window holds the lines `ls`, all of them still to be delivered. -/
structure Window.Holds (o : Options) (w : Window) (ls : List SourceLine) : Prop where
  undelivered_eq : w.undelivered = ls
  limit_eq : w.limit = some (o.maxLineLength : Int)
  whole : w.broken? = none
  pending_short : ∀ l, w.pending = some l → lengthStop? o l = none

namespace Window

variable {o : Options} {w : Window} {l : SourceLine} {ls : List SourceLine}

theorem holds_ofSupply (o : Options) (lines : List String) :
    (ofSupply { lines } (some o.maxLineLength)).Holds o (numberLines 1 lines) :=
  ⟨rfl, rfl, rfl, fun _ h ↦ by cases h⟩

theorem lengthStop?_eq (hl : w.limit = some (o.maxLineLength : Int)) (l : SourceLine) :
    lengthStop? o l = (w.tooLong? l).map fun m ↦ .fault (.lineTooLong l.number m) := by
  by_cases h : o.maxLineLength < l.text.length <;> simp [lengthStop?, tooLong?, hl, Option.filter, h]

theorem Holds.next_nil (h : w.Holds o []) : w.next.1 = .done := by
  have hu := h.undelivered_eq
  have hp : w.pending = none := by cases hp : w.pending <;> simp_all [undelivered]
  have hr : w.rest = [] := by simpa [undelivered, hp] using hu
  simp only [next, hp, read, hr, h.whole]

theorem Holds.next_long {s : Stop} (h : w.Holds o (l :: ls)) (hs : lengthStop? o l = some s) : w.next.1 = .stop s := by
  have hu := h.undelivered_eq
  cases hp : w.pending with
  | some p =>
    have hl : p = l := by simp_all [undelivered]
    have hn := h.pending_short p hp
    rw [hl, hs] at hn
    cases hn
  | none =>
    have hr : w.rest = l :: ls := by simpa [undelivered, hp] using hu
    rw [lengthStop?_eq h.limit_eq] at hs
    obtain ⟨m, hm, rfl⟩ := Option.map_eq_some_iff.1 hs
    simp only [next, hp, read, hr, hm]

theorem Holds.next_short (h : w.Holds o (l :: ls)) (hs : lengthStop? o l = none) :
    w.next.1 = .line l ∧ w.next.2.Holds o ls := by
  have hu := h.undelivered_eq
  cases hp : w.pending with
  | some p =>
    have hl : p = l ∧ w.rest = ls := by simpa [undelivered, hp] using hu
    obtain ⟨rfl, hr⟩ := hl
    simp only [next, hp]
    exact ⟨trivial, ⟨by simpa [undelivered] using hr, h.limit_eq, h.whole, fun _ hn ↦ by cases hn⟩⟩
  | none =>
    have hr : w.rest = l :: ls := by simpa [undelivered, hp] using hu
    rw [lengthStop?_eq h.limit_eq, Option.map_eq_none_iff] at hs
    simp only [next, hp, read, hr, hs]
    exact ⟨trivial, ⟨by simp [undelivered], h.limit_eq, h.whole, fun _ hn ↦ by cases hn⟩⟩

theorem Holds.peek_nil (h : w.Holds o []) : w.peek = (.done, w) := by
  have hu := h.undelivered_eq
  have hp : w.pending = none := by cases hp : w.pending <;> simp_all [undelivered]
  have hr : w.rest = [] := by simpa [undelivered, hp] using hu
  simp only [peek, hp, read, hr, h.whole]

theorem Holds.peek_long {s : Stop} (h : w.Holds o (l :: ls)) (hs : lengthStop? o l = some s) :
    ∃ w', w.peek = (.stop s, w') := by
  have hn := h.next_long hs
  cases hp : w.pending with
  | some p => simp [next, hp] at hn
  | none =>
    simp only [next, hp] at hn
    refine ⟨w.read.2, ?_⟩
    simp only [peek, hp]
    rw [← Prod.eta w.read, hn]

theorem Holds.peek_short (h : w.Holds o (l :: ls)) (hs : lengthStop? o l = none) :
    ∃ w', w.peek = (.line l, w') ∧ w'.Holds o (l :: ls) := by
  have hu := h.undelivered_eq
  cases hp : w.pending with
  | some p =>
    have hl : p = l := by simp_all [undelivered]
    exact ⟨w, by simp only [peek, hp, hl], h⟩
  | none =>
    have hr : w.rest = l :: ls := by simpa [undelivered, hp] using hu
    have ht := hs
    rw [lengthStop?_eq h.limit_eq, Option.map_eq_none_iff] at ht
    refine ⟨{ w with rest := ls, pending := some l }, by simp only [peek, hp, read, hr, ht], ?_⟩
    refine ⟨by simp [undelivered], h.limit_eq, h.whole, ?_⟩
    intro k hk
    cases hk
    exact hs

end Window

namespace Script

variable {o : Options} {p : Progress} {b : Block} {w : Window} {l : SourceLine} {ls : List SourceLine}

theorem run_of_done {strict : Bool} (h : w.next.1 = .done) : run strict p w = ⟨p, openAtEnd? p.draft⟩ := by
  rw [run]
  split <;> simp_all

theorem run_of_stop {strict : Bool} {s : Stop} (h : w.next.1 = .stop s) : run strict p w = ⟨p, some s⟩ := by
  rw [run]
  split <;> simp_all

theorem run_of_line {strict : Bool} (h : w.next.1 = .line l) :
    run strict p w =
      match (line strict l p w.next.2).stop? with
      | some s => ⟨(line strict l p w.next.2).progress, some s⟩
      | none => run strict (line strict l p w.next.2).progress (line strict l p w.next.2).window := by
  rw [run]
  split
  next hs => rw [h] at hs; cases hs
  next hs => rw [h] at hs; cases hs
  next k hk =>
    rw [h] at hk
    cases hk
    rfl

/-- The answer `a` to a line accounts for the step that the run takes with it, and the window keeps the lines `ls`. -/
structure Step.Matches (o : Options) (p : Progress) (a : Answer) (ls : List SourceLine) (s : Step) : Prop where
  progress_eq : s.progress = extend p a
  stop_eq : s.stop? = a.stop?
  holds : a.stop? = none → s.window.Holds o ls
  not_lookup : a.stop? = none → ∀ name header, a.block ≠ .lookup name header

theorem matches_fail (hp : p.draft.At b) (hw : w.Holds o ls) (f : Fault) :
    Step.Matches o p (.halt b f) ls (.fail p w f) where
  progress_eq := (extend_stay hp).symm
  stop_eq := rfl
  holds _ := hw
  not_lookup h := by cases h

theorem matches_stay (hp : p.draft.At b) (hw : w.Holds o ls) (hb : ∀ name header, b ≠ .lookup name header) :
    Step.Matches o p { block := b } ls ⟨p, w, none⟩ where
  progress_eq := (extend_stay hp).symm
  stop_eq := rfl
  holds _ := hw
  not_lookup _ := hb

theorem matches_record (hp : p.draft.At b) (hw : w.Holds o ls) (hb : ∀ name header, b ≠ .lookup name header)
    (hl : lengthStop? o l = none) (hk : l.kind = .record) :
    Step.Matches o p (answer o b l ls.head?) ls (recordLine l p w) := by
  unfold recordLine
  cases hn : blockName (tokens l.text) l with
  | error f =>
    rw [answer_unnamed hl hb (by simp [hk]) hn]
    exact matches_fail hp hw f
  | ok name =>
    cases b with
    | outside =>
      simp only [answer, hl, outsideAnswer, hk, hn, Draft.openTable_outside hp]
      refine ⟨?_, rfl, fun _ ↦ hw, fun _ _ _ h ↦ by cases h⟩
      simp [Step.settle, report, extend]
    | table outer header =>
      simp only [answer, hl, tableAnswer, hk, hn, Draft.openTable_table hp]
      refine ⟨?_, rfl, fun _ ↦ hw, fun h ↦ by cases h⟩
      have hd : p.draft.within (.table outer header) = p.draft := hp
      simp [Step.settle, Step.fail, report, extend, Answer.halt, hd]
    | lookup name' header => exact absurd rfl (hb name' header)

theorem matches_close (hp : p.draft.At b) (hw : w.Holds o ls) (hb : ∀ name header, b ≠ .lookup name header)
    (hl : lengthStop? o l = none) (hk : l.kind = .close) :
    Step.Matches o p (answer o b l ls.head?) ls (.settle p w (p.draft.closeTable l)) := by
  cases b with
  | outside =>
    simp only [answer, hl, outsideAnswer, hk, Draft.closeTable_outside hp]
    exact matches_fail hp hw _
  | table outer header =>
    simp only [answer, hl, tableAnswer, hk, Draft.closeTable_table hp]
    refine ⟨?_, rfl, fun _ ↦ hw, fun _ _ _ h ↦ by cases h⟩
    simp [Step.settle, extend]
  | lookup name header => exact absurd rfl (hb name header)

def columnStep (strict : Bool) (l : SourceLine) (p : Progress) (field : Field) (last : Bool) (w : Window) : Step :=
  match p.draft.writeColumn field l last strict with
  | .error f => .fail p w f
  | .ok d =>
    let p := match ColumnType.ofName? field.typeName with
      | some _ => p
      | none => report p (.newColumnType field.typeName)
    ⟨{ p with draft := d }, w, none⟩

theorem fieldLine_eq_columnStep {strict : Bool} {field : Field} {shown : Pull} {w' : Window}
    (hf : Field.ofTokens (tokens l.text) l = .ok field) (hp : w.peek = (shown, w')) (hs : ∀ s, shown ≠ .stop s) :
    fieldLine strict l p w = columnStep strict l p field (endsColumns shown) w' := by
  unfold fieldLine
  simp only [hf, hp]
  cases shown with
  | stop s => exact absurd rfl (hs s)
  | line k => rfl
  | done => rfl

theorem matches_column {field : Field} {block : String} {header : SourceLine} {last : Bool}
    (hp : p.draft.At (.table block header)) (hw : w.Holds o ls) :
    Step.Matches o p (columnAnswer o block header l field last) ls (columnStep o.strict l p field last w) := by
  have hd : p.draft.within (.table block header) = p.draft := hp
  unfold columnAnswer columnStep
  cases ht : ColumnType.ofName? field.typeName with
  | some t =>
    rw [Draft.writeColumn_mapped hp ht]
    refine ⟨?_, rfl, fun _ ↦ hw, fun _ _ _ h ↦ by cases h⟩
    simp [extend, hd]
  | none =>
    cases hs : o.strict with
    | true =>
      rw [Draft.writeColumn_strict hp ht]
      exact matches_fail hp hw _
    | false =>
      rw [Draft.writeColumn_lenient hp ht]
      refine ⟨?_, rfl, fun _ ↦ hw, fun _ _ _ h ↦ by cases h⟩
      simp [extend, report, hd]

theorem peek_cases (hw : w.Holds o ls) :
    (∃ s w', ls.head?.bind (lengthStop? o) = some s ∧ w.peek = (.stop s, w')) ∨
    (∃ shown w', ls.head?.bind (lengthStop? o) = none ∧ w.peek = (shown, w') ∧ (∀ s, shown ≠ .stop s) ∧
      endsColumns shown = ls.head?.any isBrace ∧ w'.Holds o ls) := by
  cases ls with
  | nil => exact .inr ⟨.done, w, rfl, hw.peek_nil, nofun, rfl, hw⟩
  | cons k ks =>
    cases hk : lengthStop? o k with
    | some s =>
      obtain ⟨w', hp⟩ := hw.peek_long hk
      exact .inl ⟨s, w', hk, hp⟩
    | none =>
      obtain ⟨w', hp, hw'⟩ := hw.peek_short hk
      exact .inr ⟨.line k, w', hk, hp, nofun, by simp only [endsColumns, List.head?_cons, Option.any_some, isBrace], hw'⟩

theorem matches_field (hp : p.draft.At b) (hw : w.Holds o ls) (hb : ∀ name header, b ≠ .lookup name header)
    (hl : lengthStop? o l = none) (hk : l.kind = .field) :
    Step.Matches o p (answer o b l ls.head?) ls (fieldLine o.strict l p w) := by
  rw [answer_field hl hb hk]
  cases hf : Field.ofTokens (tokens l.text) l with
  | error f =>
    simp only [fieldAnswer, fieldLine, hf]
    exact matches_fail hp hw f
  | ok field =>
    obtain ⟨s, w', hs, hpeek⟩ | ⟨shown, w', hs, hpeek, hshown, hlast, hw'⟩ := peek_cases hw
    · simp only [fieldAnswer, fieldLine, hf, hs, hpeek]
      refine ⟨(extend_stay hp).symm, rfl, ?_, ?_⟩
      · intro h
        cases h
      · intro h
        cases h
    · rw [fieldLine_eq_columnStep hf hpeek hshown, hlast]
      simp only [fieldAnswer, hf, hs]
      cases b with
      | outside =>
        simp only [columnStep, Draft.writeColumn_outside hp]
        exact matches_fail hp hw' _
      | table block header => exact matches_column hp hw'
      | lookup name header => exact absurd rfl (hb name header)

/-- The header of an enumeration that is refused. -/
theorem matches_enumeration (hp : p.draft.At b) (hw : w.Holds o ls) (hb : ∀ name header, b ≠ .lookup name header)
    (hl : lengthStop? o l = none) (hk : l.kind = .enumeration)
    (hr : b = .outside → ∃ f, blockName (tokens l.text) l = .error f) :
    Step.Matches o p (answer o b l ls.head?) ls (enumerationLine l p w) := by
  unfold enumerationLine
  cases hn : blockName (tokens l.text) l with
  | error f =>
    rw [answer_unnamed hl hb (by simp [hk]) hn]
    exact matches_fail hp hw f
  | ok name =>
    cases b with
    | outside =>
      obtain ⟨f, hf⟩ := hr rfl
      rw [hn] at hf
      cases hf
    | table outer header =>
      simp only [answer, hl, tableAnswer, hk, hn, report, Draft.openLookup_table hp]
      refine ⟨?_, rfl, fun _ ↦ hw, fun h ↦ by cases h⟩
      have hd : p.draft.within (.table outer header) = p.draft := hp
      simp [Step.fail, extend, Answer.halt, hd]
    | lookup name' header => exact absurd rfl (hb name' header)

/-- What a line does to the run, a body of an enumeration apart. -/
theorem matches_line (hp : p.draft.At b) (hw : w.Holds o ls) (hb : ∀ name header, b ≠ .lookup name header)
    (hl : lengthStop? o l = none)
    (hr : l.kind = .enumeration → b = .outside → ∃ f, blockName (tokens l.text) l = .error f) :
    Step.Matches o p (answer o b l ls.head?) ls (line o.strict l p w) := by
  have noise (hk : l.kind = .noise) : Step.Matches o p (answer o b l ls.head?) ls ⟨p, w, none⟩ := by
    rw [answer_noise hl hb hk]
    exact matches_stay hp hw hb
  unfold line
  split
  next he => exact noise (SourceLine.kind_of_trimmed_empty he)
  next =>
    split
    next hk => exact matches_record hp hw hb hl hk
    next hk => exact matches_close hp hw hb hl hk
    next hk => exact matches_enumeration hp hw hb hl hk (hr hk)
    next hk => exact matches_field hp hw hb hl hk
    next hk => exact noise hk

end Script

namespace Draft

variable {o : Options} {w : Window} {l : SourceLine} {ls : List SourceLine}
variable {name : String} {header : SourceLine} {d : Draft} {count : Nat}

theorem readRows_of_done (h : w.next.1 = .done) :
    readRows name header d count w =
      ⟨d, w.next.2, .error (.fault (.unbalanced header (.lookupNeverClosed name)))⟩ := by
  rw [readRows]
  split <;> simp_all

theorem readRows_of_stop {s : Stop} (h : w.next.1 = .stop s) :
    readRows name header d count w = ⟨d, w.next.2, .error s⟩ := by
  rw [readRows]
  split <;> simp_all

theorem readRows_of_line (h : w.next.1 = .line l) :
    readRows name header d count w =
      if l.trimmed = closeBrace then ⟨d.leave, w.next.2, .ok count⟩
      else if l.trimmed = "" then readRows name header d count w.next.2
      else readRows name header (d.write (.row name (rowValue l))) (count + 1) w.next.2 := by
  rw [readRows]
  split
  next hs => rw [h] at hs; cases hs
  next hs => rw [h] at hs; cases hs
  next k hk =>
    rw [h] at hk
    cases hk
    rfl

/-- The outcome of a run inside an enumeration, given what the inner loop leaves: the run goes on between blocks with
at most `n` lines, or it stops as the loop does. -/
def Rows.Yields (o : Options) (events : Array Event) (n : Nat) (r : Rows) (out : Outcome) : Prop :=
  (∃ k ls, r.result = .ok k ∧ r.window.Holds o ls ∧ ls.length ≤ n ∧ r.draft.At .outside ∧
    out = runFrom o ⟨r.draft, events⟩ ls) ∨
  ∃ s, r.result = .error s ∧ out = ⟨⟨r.draft, events⟩, some s⟩

theorem Rows.Yields.mono {events : Array Event} {n m : Nat} {r : Rows} {out : Outcome}
    (h : r.Yields o events n out) (hm : n ≤ m) : r.Yields o events m out := by
  obtain ⟨k, ls, hr, hw, hn, hb, he⟩ | h := h
  · exact .inl ⟨k, ls, hr, hw, Nat.le_trans hn hm, hb, he⟩
  · exact .inr h

theorem readRows_yields (events : Array Event) (hw : w.Holds o ls) (hd : d.At (.lookup name header)) :
    (readRows name header d count w).Yields o events ls.length (runFrom o ⟨d, events⟩ ls) := by
  induction ls generalizing d count w with
  | nil =>
    rw [readRows_of_done hw.next_nil, runFrom_nil, hd.block_eq]
    exact .inr ⟨_, rfl, rfl⟩
  | cons l ls ih =>
    have hb : d.block = .lookup name header := hd.block_eq
    cases hs : lengthStop? o l with
    | some s =>
      rw [readRows_of_stop (hw.next_long hs), runFrom_stop (s := s) (by rw [answer_long hs]), answer_long hs, hb]
      exact .inr ⟨s, rfl, by rw [extend_stay hd]⟩
    | none =>
      obtain ⟨hn, hw'⟩ := hw.next_short hs
      have ha : answer o (.lookup name header) l ls.head? = lookupAnswer name header l := answer_lookup hs name header
      rw [readRows_of_line hn]
      by_cases hc : l.trimmed = closeBrace
      · rw [lookupAnswer_brace hc] at ha
        rw [if_pos hc, runFrom_step hb ha rfl, extend_move]
        exact .inl ⟨count, ls, rfl, hw', Nat.le_succ _, rfl, rfl⟩
      rw [if_neg hc]
      by_cases hblank : l.trimmed = ""
      · rw [lookupAnswer_blank hblank] at ha
        rw [if_pos hblank, runFrom_step hb ha rfl, extend_stay hd]
        exact (ih hw' hd).mono (Nat.le_succ _)
      · rw [lookupAnswer_row hc hblank] at ha
        have he : extend ⟨d, events⟩ { block := .lookup name header, script := [.row name (rowValue l)] } =
            ⟨d.write (.row name (rowValue l)), events⟩ := by
          have hwithin : d.within (.lookup name header) = d := hd
          simp [extend, write, hwithin]
        rw [if_neg hblank, runFrom_step hb ha rfl, he]
        exact (ih hw' (hd.write _)).mono (Nat.le_succ _)

end Draft

namespace Script

variable {o : Options} {p : Progress} {b : Block} {w : Window} {l : SourceLine} {ls : List SourceLine}

theorem openAtEnd?_eq (hp : p.draft.At b) (hb : ∀ name header, b ≠ .lookup name header) :
    openAtEnd? p.draft = endStop? b := by
  obtain ⟨hplace, hn, hh⟩ := Draft.at_iff.1 hp
  unfold openAtEnd?
  rw [hplace, hh]
  cases b with
  | outside => rfl
  | table name header =>
    rw [Draft.blockLabel_of_some hn]
    rfl
  | lookup name header => exact absurd rfl (hb name header)

/-- The header of an enumeration between blocks: the automaton is inside the enumeration after it. -/
theorem enumerationLine_yields {name : String} (hp : p.draft.At .outside) (hw : w.Holds o ls)
    (hl : lengthStop? o l = none) (hk : l.kind = .enumeration) (hn : blockName (tokens l.text) l = .ok name) :
    ∃ r : Draft.Rows, ∃ events,
      enumerationLine l p w =
        ⟨⟨r.draft, events⟩, r.window, match r.result with | .ok _ => none | .error s => some s⟩ ∧
      r.Yields o events ls.length (runFrom o p (l :: ls)) := by
  have ha : answer o .outside l ls.head? =
      { block := .lookup name l
        script := [.tableHeader name, .lookupColumns, .tableFooter]
        lookups := [name]
        events := [.creatingLookup name] } := by
    simp only [answer, hl, outsideAnswer, hk, hn]
  let d : Draft :=
    { p.draft.within (.lookup name l) with
      lookups := p.draft.lookups.push name
      script := ((p.draft.script.push (.tableHeader name)).push .lookupColumns).push .tableFooter }
  have he : extend p (answer o .outside l ls.head?) = ⟨d, p.events.push (.creatingLookup name)⟩ := by
    simp [ha, extend, d]
  rw [runFrom_step hp.block_eq rfl (by rw [ha]), he]
  refine ⟨Draft.readRows name l d 0 w, _, ?_, Draft.readRows_yields _ hw rfl⟩
  simp only [enumerationLine, hn, report, Draft.openLookup_outside hp]
  rfl

theorem line_eq_enumerationLine {strict : Bool} (hk : l.kind = .enumeration) :
    line strict l p w = enumerationLine l p w := by
  have hne : l.trimmed ≠ "" := by
    intro h
    rw [SourceLine.kind_of_trimmed_empty h] at hk
    cases hk
  simp only [line, hne, if_false, hk]

theorem run_eq_runFrom (hp : p.draft.At b) (hw : w.Holds o ls) (hb : ∀ name header, b ≠ .lookup name header) :
    run o.strict p w = runFrom o p ls := by
  -- On the number of lines, since one step of the run takes the whole body of an enumeration. Between steps no
  -- enumeration is open, which is the hypothesis on the block.
  induction hn : ls.length using Nat.strongRecOn generalizing ls p b w with
  | ind n ih =>
    have hblock : p.draft.block = b := hp.block_eq
    cases ls with
    | nil => rw [run_of_done hw.next_nil, runFrom_nil, openAtEnd?_eq hp hb, hblock]
    | cons l ls =>
      cases hl : lengthStop? o l with
      | some s =>
        rw [run_of_stop (hw.next_long hl), runFrom_stop (s := s) (by rw [answer_long hl]), answer_long hl, hblock,
          extend_stay hp]
      | none =>
        obtain ⟨hnext, hw'⟩ := hw.next_short hl
        have hlt : ls.length < n := by simp [← hn]
        rw [run_of_line hnext]
        by_cases he : l.kind = .enumeration ∧ b = .outside ∧ ∃ name, blockName (tokens l.text) l = .ok name
        · obtain ⟨hk, rfl, name, hname⟩ := he
          obtain ⟨r, events, hr, hy⟩ := enumerationLine_yields hp hw' hl hk hname
          rw [line_eq_enumerationLine hk, hr]
          obtain ⟨k, ls', hres, hrw, hlen, hrb, hrun⟩ | ⟨s, hres, hrun⟩ := hy
          · rw [hrun]
            simp only [hres]
            exact ih ls'.length (by omega) hrb hrw (by simp) rfl
          · rw [hrun]
            simp only [hres]
        · have hrefused : l.kind = .enumeration → b = .outside → ∃ f, blockName (tokens l.text) l = .error f := by
            intro hk hout
            cases hname : blockName (tokens l.text) l with
            | error f => exact ⟨f, rfl⟩
            | ok name => exact absurd ⟨hk, hout, name, hname⟩ he
          have hm := matches_line hp hw' hb hl hrefused
          rw [hm.stop_eq, hm.progress_eq]
          cases ha : (answer o b l ls.head?).stop? with
          | some s => rw [runFrom_stop (by rw [hblock, ha]), hblock]
          | none =>
            rw [runFrom_cons (by rw [hblock, ha]), hblock]
            exact ih ls.length hlt (at_extend p _) (hm.holds ha) (hm.not_lookup ha) rfl

theorem ofLines_eq_run (o : Options) (lines : List String) : ofLines o lines = Automaton.run o lines :=
  run_eq_runFrom (b := .outside) rfl (Window.holds_ofSupply o lines) nofun

/-- The script of a document is what the automaton makes of its lines, and each of its transitions knows of the next
line at most what a glance shows. -/
theorem ofLines_eq_automaton_run (o : Options) (lines : List String) :
    ofLines o lines = Automaton.run o lines ∧
      ∀ b l next next', (LooksAhead b l → glance o next = glance o next') → answer o b l next = answer o b l next' :=
  ⟨ofLines_eq_run o lines, fun _ _ _ _ h ↦ answer_congr h⟩

end Script

end SchemaDdl

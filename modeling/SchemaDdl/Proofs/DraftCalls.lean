import SchemaDdl.Draft.Rows
import SchemaDdl.Proofs.Document

namespace SchemaDdl

/-- What a window itself can stop a run with. -/
def Stop.OfWindow (s : Stop) : Prop := (∃ n m, s = .fault (.lineTooLong n m)) ∨ ∃ f, s = .undecodable f

namespace Window

/-- What the next line of `w` can be, and the window after it. -/
inductive Gives (w : Window) : Pull → Window → Prop
  | line (l : SourceLine) (w' : Window) : w.undelivered = l :: w'.undelivered → Gives w (.line l) w'
  | done (w' : Window) : w.undelivered = [] → w'.undelivered = [] → Gives w .done w'
  | stop (s : Stop) (w' : Window) : s.OfWindow → Gives w (.stop s) w'

theorem gives_next (w : Window) : w.Gives w.next.1 w.next.2 := by
  unfold next
  cases hp : w.pending with
  | some p => exact .line p _ (by simp [undelivered, hp])
  | none =>
    cases hr : w.rest with
    | nil =>
      have hw : w.undelivered = [] := by simp [undelivered, hp, hr]
      cases hb : w.broken? with
      | none =>
        simp only [read, hr, hb]
        exact .done w hw hw
      | some f =>
        simp only [read, hr, hb]
        exact .stop _ w (.inr ⟨f, rfl⟩)
    | cons a as =>
      cases ht : w.tooLong? a with
      | some m =>
        simp only [read, hr, ht]
        exact .stop _ _ (.inl ⟨_, m, rfl⟩)
      | none =>
        simp only [read, hr, ht]
        exact .line a _ (by simp [undelivered, hp, hr])

variable {w : Window}

theorem undelivered_of_line {l : SourceLine} (h : w.next.1 = .line l) : w.undelivered = l :: w.next.2.undelivered := by
  have hw := w.gives_next
  rw [h] at hw
  cases hw with
  | line _ _ hl => exact hl

theorem undelivered_of_done (h : w.next.1 = .done) : w.undelivered = [] ∧ w.next.2.undelivered = [] := by
  have hw := w.gives_next
  rw [h] at hw
  cases hw with
  | done _ hnil hnil' => exact ⟨hnil, hnil'⟩

theorem ofWindow_of_stop {s : Stop} (h : w.next.1 = .stop s) : s.OfWindow := by
  have hw := w.gives_next
  rw [h] at hw
  cases hw with
  | stop _ _ hs => exact hs

end Window

namespace Draft

/-- Whatever reading rows comes to, from the draft `d` and the lines of `w`: it meets the closing brace, or no line is
left, or the window stops it. -/
inductive ReadsRows (name : String) (header : SourceLine) (d : Draft) (count : Nat) (w : Window) (r : Rows) : Prop
  | closed (body : List SourceLine) (close : SourceLine) :
      w.undelivered = body ++ close :: r.window.undelivered → (∀ l ∈ body, l.trimmed ≠ closeBrace) →
      close.trimmed = closeBrace → r.draft = { d.within .outside with script := d.script ++ rowsOf name body } →
      r.result = .ok (count + (rowsOf name body).length) → ReadsRows name header d count w r
  | ranOut :
      r.window.undelivered = [] → (∀ l ∈ w.undelivered, l.trimmed ≠ closeBrace) →
      r.draft = { d with script := d.script ++ rowsOf name w.undelivered } →
      r.result = .error (.fault (.unbalanced header (.lookupNeverClosed name))) → ReadsRows name header d count w r
  | stopped (body : List SourceLine) (s : Stop) :
      s.OfWindow → r.draft = { d with script := d.script ++ rowsOf name body } → r.result = .error s →
      ReadsRows name header d count w r

variable {name : String} {header l : SourceLine} {d : Draft} {count : Nat} {w w' : Window} {r : Rows}

theorem append_rowsOf_nil (script : Array Fragment) : script ++ rowsOf name [] = script := by
  simp [rowsOf]

theorem append_rowsOf_cons (script : Array Fragment) (body : List SourceLine) :
    script ++ rowsOf name [l] ++ rowsOf name body = script ++ rowsOf name (l :: body) := by
  have hrows : rowsOf name (l :: body) = rowsOf name [l] ++ rowsOf name body := rowsOf_append name [l] body
  rw [hrows, array_append_list_list]

theorem length_rowsOf_cons (body : List SourceLine) :
    (rowsOf name [l]).length + (rowsOf name body).length = (rowsOf name (l :: body)).length := by
  have hrows : rowsOf name (l :: body) = rowsOf name [l] ++ rowsOf name body := rowsOf_append name [l] body
  rw [hrows, List.length_append]

/-- One more line before the rest of the body. -/
theorem ReadsRows.cons (hl : w.undelivered = l :: w'.undelivered) (hne : l.trimmed ≠ closeBrace)
    (h : ReadsRows name header { d with script := d.script ++ rowsOf name [l] } (count + (rowsOf name [l]).length) w' r) :
    ReadsRows name header d count w r := by
  cases h with
  | closed body close hw hb hc hd hr =>
    refine .closed (l :: body) close ?_ (List.forall_mem_cons.2 ⟨hne, hb⟩) hc ?_ ?_
    · rw [hl, hw, List.cons_append]
    · rw [hd, append_rowsOf_cons]
      rfl
    · rw [hr, Nat.add_assoc, length_rowsOf_cons]
  | ranOut hw hb hd hr =>
    refine .ranOut hw ?_ ?_ hr
    · rw [hl]
      exact List.forall_mem_cons.2 ⟨hne, hb⟩
    · rw [hd, hl, append_rowsOf_cons]
  | stopped body s hs hd hr =>
    refine .stopped (l :: body) s hs ?_ hr
    rw [hd, append_rowsOf_cons]

theorem readsRows_readRows (name : String) (header : SourceLine) (d : Draft) (count : Nat) (w : Window) :
    ReadsRows name header d count w (readRows name header d count w) := by
  fun_induction readRows name header d count w with
  | case1 d count w s hs => exact .stopped [] s (Window.ofWindow_of_stop hs) (by rw [append_rowsOf_nil]) rfl
  | case2 d count w hs =>
    obtain ⟨hnil, hnil'⟩ := Window.undelivered_of_done hs
    exact .ranOut hnil' (by simp [hnil]) (by rw [hnil, append_rowsOf_nil]) rfl
  | case3 d count w l hs hlt hc =>
    refine .closed [] l (Window.undelivered_of_line hs) (by simp) hc ?_ (by simp [rowsOf])
    rw [append_rowsOf_nil]
    rfl
  | case4 d count w l hs hlt hc hblank ih =>
    refine .cons (Window.undelivered_of_line hs) hc ?_
    simpa [rowsOf, hblank] using ih
  | case5 d count w l hs hlt hc hblank ih =>
    refine .cons (Window.undelivered_of_line hs) hc ?_
    simpa [rowsOf, hblank, write] using ih

theorem writeRows_open (h : d.place ≠ .outside) :
    d.writeRows name header w = ⟨d, w, .error (.fault (.unbalanced header (.rowsInside name d.blockLabel)))⟩ := if_neg h

theorem writeRows_outside (h : d.place = .outside) :
    d.writeRows name header w = readRows name header (d.within (.lookup name header)) 0 w := if_pos h

/-- A call of an operation on a draft, with its arguments. -/
inductive Call where
  | openTable (name : String) (line : SourceLine)
  | closeTable (line : SourceLine)
  | writeColumn (field : Field) (line : SourceLine) (last strict : Bool)
  | openLookup (name : String) (line : SourceLine)
  | writeRows (name : String) (header : SourceLine) (lines : Window)

/-- The draft that a call leaves, and what it fails with if it does. -/
structure Reply where
  draft : Draft
  stop? : Option Stop

def Edit.reply (e : Edit) (d : Draft) : Reply :=
  match e.run d with
  | .ok _ d' => ⟨d', none⟩
  | .error f d' => ⟨d', some (.fault f)⟩

def Rows.reply (r : Rows) : Reply :=
  match r.result with
  | .ok _ => ⟨r.draft, none⟩
  | .error s => ⟨r.draft, some s⟩

def Call.perform (d : Draft) : Call → Reply
  | .openTable name line => (Edit.openTable name line).reply d
  | .closeTable line => (Edit.closeTable line).reply d
  | .writeColumn field line last strict => (Edit.writeColumn field line last strict).reply d
  | .openLookup name line => (Edit.openLookup name line).reply d
  | .writeRows name header lines => (d.writeRows name header lines).reply

theorem Edit.reply_of_ok {e : Edit} {d' : Draft} (h : e.run d = .ok () d') : e.reply d = ⟨d', none⟩ := by
  simp only [reply, h]

theorem Edit.reply_of_error {e : Edit} {f : Fault} {d' : Draft} (h : e.run d = .error f d') :
    e.reply d = ⟨d', some (.fault f)⟩ := by
  simp only [reply, h]

/-- All that a call can do to a draft. -/
inductive Call.Yields (d : Draft) : Call → Reply → Prop
  | refused (c : Call) (f : Fault) : (f = .noHeader → d.place ≠ .outside ∧ d.header? = none) →
      Yields d c ⟨d, some (.fault f)⟩
  | opensTable (name : String) (line : SourceLine) : d.place = .outside →
      Yields d (.openTable name line)
        ⟨{ d.within (.table name line) with
          tables := d.tables.push name
          script := d.script.push (.tableHeader name) }, none⟩
  | closesTable (line : SourceLine) : d.place = .inTable →
      Yields d (.closeTable line) ⟨{ d.within .outside with script := d.script.push .tableFooter }, none⟩
  | writesColumn (field : Field) (line : SourceLine) (last strict : Bool) : d.place = .inTable →
      ColumnType.ofName? field.typeName ≠ none →
      Yields d (.writeColumn field line last strict) ⟨{ d with script := d.script.push (field.column last) }, none⟩
  | findsColumn (field : Field) (line : SourceLine) (last : Bool) : d.place = .inTable →
      ColumnType.ofName? field.typeName = none →
      Yields d (.writeColumn field line last false)
        ⟨{ d with
          findings := d.findings.push ⟨line.number, d.blockLabel, field.name, field.typeName⟩
          script := d.script.push (field.column last) }, none⟩
  | opensLookup (name : String) (line : SourceLine) : d.place = .outside →
      Yields d (.openLookup name line)
        ⟨{ d.within .outside with
          lookups := d.lookups.push name
          script := ((d.script.push (.tableHeader name)).push .lookupColumns).push .tableFooter }, none⟩
  | writesRows (name : String) (header : SourceLine) (w : Window) (b : Block) (body : List SourceLine)
      (stop? : Option Stop) : d.place = .outside → b = .outside ∨ b = .lookup name header →
      stop? ≠ some (.fault .noHeader) →
      Yields d (.writeRows name header w) ⟨{ d.within b with script := d.script ++ rowsOf name body }, stop?⟩

theorem nestedFault_eq_noHeader {line : SourceLine} (h : d.nestedFault name line = .noHeader) : d.header? = none := by
  unfold nestedFault at h
  split at h
  · cases h
  next hh => exact hh

theorem yields_openTable (d : Draft) (name : String) (line : SourceLine) :
    Call.Yields d (.openTable name line) ((Edit.openTable name line).reply d) := by
  by_cases h : d.place = .outside
  · rw [Edit.reply_of_ok (Edit.run_openTable_outside h)]
    exact .opensTable name line h
  · rw [Edit.reply_of_error (Edit.run_openTable_open h)]
    exact .refused _ _ fun hf ↦ ⟨h, nestedFault_eq_noHeader hf⟩

theorem yields_openLookup (d : Draft) (name : String) (line : SourceLine) :
    Call.Yields d (.openLookup name line) ((Edit.openLookup name line).reply d) := by
  by_cases h : d.place = .outside
  · rw [Edit.reply_of_ok (Edit.run_openLookup_outside h)]
    exact .opensLookup name line h
  · rw [Edit.reply_of_error (Edit.run_openLookup_open h)]
    exact .refused _ _ fun hf ↦ ⟨h, nestedFault_eq_noHeader hf⟩

theorem yields_closeTable (d : Draft) (line : SourceLine) :
    Call.Yields d (.closeTable line) ((Edit.closeTable line).reply d) := by
  by_cases h : d.place = .inTable
  · rw [Edit.reply_of_ok (Edit.run_closeTable_inTable h)]
    exact .closesTable line h
  · rw [Edit.reply_of_error (Edit.run_closeTable_of_ne h)]
    exact .refused _ _ (by simp)

theorem yields_writeColumn (d : Draft) (field : Field) (line : SourceLine) (last strict : Bool) :
    Call.Yields d (.writeColumn field line last strict) ((Edit.writeColumn field line last strict).reply d) := by
  by_cases h : d.place = .inTable
  · cases ht : ColumnType.ofName? field.typeName with
    | some t =>
      rw [Edit.reply_of_ok (Edit.run_writeColumn_mapped h ht)]
      exact .writesColumn field line last strict h (by simp [ht])
    | none =>
      cases strict with
      | true =>
        rw [Edit.reply_of_error (Edit.run_writeColumn_strict h ht)]
        exact .refused _ _ (by simp)
      | false =>
        rw [Edit.reply_of_ok (Edit.run_writeColumn_lenient h ht)]
        exact .findsColumn field line last h ht
  · rw [Edit.reply_of_error (Edit.run_writeColumn_of_ne h)]
    exact .refused _ _ (by simp)

theorem yields_writeRows (d : Draft) (name : String) (header : SourceLine) (w : Window) :
    Call.Yields d (.writeRows name header w) (d.writeRows name header w).reply := by
  by_cases h : d.place = .outside
  · rw [writeRows_outside h]
    cases readsRows_readRows name header (d.within (.lookup name header)) 0 w with
    | closed body close hw hb hc hd hr =>
      simp only [Rows.reply, hr, hd]
      exact .writesRows name header w .outside body none h (.inl rfl) (by simp)
    | ranOut hw hb hd hr =>
      simp only [Rows.reply, hr, hd]
      exact .writesRows name header w _ w.undelivered _ h (.inr rfl) (by simp)
    | stopped body s hs hd hr =>
      simp only [Rows.reply, hr, hd]
      refine .writesRows name header w _ body _ h (.inr rfl) ?_
      obtain ⟨n, m, rfl⟩ | ⟨f, rfl⟩ := hs <;> simp
  · rw [writeRows_open h]
    exact .refused _ _ (by simp)

theorem Call.yields_perform (d : Draft) (c : Call) : Yields d c (c.perform d) := by
  cases c with
  | openTable name line => exact yields_openTable d name line
  | closeTable line => exact yields_closeTable d line
  | writeColumn field line last strict => exact yields_writeColumn d field line last strict
  | openLookup name line => exact yields_openLookup d name line
  | writeRows name header lines => exact yields_writeRows d name header lines

theorem Call.Yields.coherent {c : Call} {r : Reply} (h : Yields d c r) (hd : d.Coherent) : r.draft.Coherent := by
  cases h with
  | refused => exact hd
  | opensTable name line => exact At.coherent (b := .table name line) rfl
  | closesTable | opensLookup => exact At.coherent (b := .outside) rfl
  | writesColumn | findsColumn => exact ⟨hd.outside_iff_unnamed, hd.unnamed_iff_headless⟩
  | writesRows name header w b => exact At.coherent (b := b) rfl

theorem Call.Yields.stop_ne_noHeader {c : Call} {r : Reply} (h : Yields d c r) (hd : d.Coherent) :
    r.stop? ≠ some (.fault .noHeader) := by
  cases h with
  | refused c f hf =>
    intro h
    cases h
    obtain ⟨hp, hh⟩ := hf rfl
    exact hp (hd.outside_iff_unnamed.2 (hd.unnamed_iff_headless.2 hh))
  | opensTable | closesTable | writesColumn | findsColumn | opensLookup => simp
  | writesRows name header w b body stop? hp hb hstop => exact hstop

end Draft

end SchemaDdl

import Mathlib.Data.List.Forall2
import SchemaDdl.Proofs.DraftCalls

namespace SchemaDdl

def Fragment.headerName? : Fragment → Option String
  | .tableHeader name => some name
  | _ => none

/-- A column that is written without a column type. -/
def Fragment.isUntyped : Fragment → Bool
  | .column _ type _ _ => type = noColumnType
  | _ => false

def Place.openTables : Place → Nat
  | .inTable => 1
  | _ => 0

theorem columnTypeText_eq_noColumnType_iff (typeName : String) :
    columnTypeText typeName = noColumnType ↔ ColumnType.ofName? typeName = none := by
  unfold columnTypeText
  cases h : ColumnType.ofName? typeName with
  | none => simp
  | some t =>
    have ht : t.text ≠ noColumnType := by cases t <;> decide
    simpa using ht

@[simp]
theorem Field.isUntyped_column (field : Field) (last : Bool) :
    (field.column last).isUntyped = decide (ColumnType.ofName? field.typeName = none) := by
  simp only [Fragment.isUntyped, Field.column, columnTypeText_eq_noColumnType_iff]

@[simp]
theorem Field.headerName?_column (field : Field) (last : Bool) : (field.column last).headerName? = none := rfl

@[simp]
theorem Field.column_ne_tableFooter (field : Field) (last : Bool) : field.column last ≠ .tableFooter := by
  intro h
  cases h

namespace Draft

def Call.opensTable : Call → Bool
  | .openTable _ _ => true
  | _ => false

def Call.opensLookup : Call → Bool
  | .openLookup _ _ => true
  | _ => false

/-- A call and the draft that it finds. -/
structure CallEntry where
  before : Draft
  call : Call

namespace CallEntry

def after (e : CallEntry) : Draft := (e.call.perform e.before).draft

/-- What the call adds to the script. -/
def written (e : CallEntry) : List Fragment := e.after.script.toList.drop e.before.script.size

def headers (e : CallEntry) : List String := e.written.filterMap Fragment.headerName?

def untyped (e : CallEntry) : List (CallEntry × Fragment) :=
  (e.written.filter Fragment.isUntyped).map fun x ↦ (e, x)

theorem map_snd_untyped (e : CallEntry) : e.untyped.map Prod.snd = e.written.filter Fragment.isUntyped := by
  simp [untyped, Function.comp_def]

end CallEntry

def afterCalls (d : Draft) (calls : List Call) : Draft := calls.foldl (fun d c ↦ (c.perform d).draft) d

def history (d : Draft) : List Call → List CallEntry
  | [] => []
  | c :: calls => ⟨d, c⟩ :: history (c.perform d).draft calls

end Draft

open Draft

def Finding.Describes (f : Finding) (x : CallEntry × Fragment) : Prop :=
  ∃ field line last strict, x.1.call = .writeColumn field line last strict ∧
    x.1.before.place = .inTable ∧ x.1.before.blockName? = some f.block ∧ x.2 = field.column last ∧
    f = ⟨line.number, f.block, field.name, field.typeName⟩

namespace Draft

/-- The history `h` accounts for all that was added to `d` on the way to `d'`. -/
structure Grows (d d' : Draft) (h : List CallEntry) : Prop where
  script : d'.script.toList = d.script.toList ++ h.flatMap CallEntry.written
  tables : d'.tables.toList = d.tables.toList ++ (h.filter (·.call.opensTable)).flatMap CallEntry.headers
  lookups : d'.lookups.toList = d.lookups.toList ++ (h.filter (·.call.opensLookup)).flatMap CallEntry.headers
  findings : ∃ fs, d'.findings.toList = d.findings.toList ++ fs ∧
    List.Forall₂ Finding.Describes fs (h.flatMap CallEntry.untyped)
  balance : (h.flatMap CallEntry.headers).length + d.place.openTables =
    (h.flatMap CallEntry.written).count .tableFooter + d'.place.openTables

theorem Grows.refl (d : Draft) : Grows d d [] := by
  refine ⟨?_, ?_, ?_, ⟨[], ?_, ?_⟩, ?_⟩ <;> simp

theorem Grows.trans {d d' d'' : Draft} {h h' : List CallEntry} (hd : Grows d d' h) (hd' : Grows d' d'' h') :
    Grows d d'' (h ++ h') := by
  obtain ⟨fs, hfs, hall⟩ := hd.findings
  obtain ⟨fs', hfs', hall'⟩ := hd'.findings
  refine ⟨?_, ?_, ?_, ⟨fs ++ fs', ?_, ?_⟩, ?_⟩
  · rw [hd'.script, hd.script, List.flatMap_append, List.append_assoc]
  · rw [hd'.tables, hd.tables, List.filter_append, List.flatMap_append, List.append_assoc]
  · rw [hd'.lookups, hd.lookups, List.filter_append, List.flatMap_append, List.append_assoc]
  · rw [hfs', hfs, List.append_assoc]
  · rw [List.flatMap_append]
    exact List.rel_append hall hall'
  · have hb := hd.balance
    have hb' := hd'.balance
    rw [List.flatMap_append, List.flatMap_append, List.length_append, List.count_append]
    omega

theorem exists_row_of_mem_rowsOf {name : String} {body : List SourceLine} {x : Fragment} (h : x ∈ rowsOf name body) :
    ∃ value, x = .row name value := by
  obtain ⟨l, -, rfl⟩ := List.mem_map.1 h
  exact ⟨_, rfl⟩

theorem filterMap_headerName?_rowsOf (name : String) (body : List SourceLine) :
    (rowsOf name body).filterMap Fragment.headerName? = [] := by
  rw [List.filterMap_eq_nil_iff]
  intro x hx
  obtain ⟨value, rfl⟩ := exists_row_of_mem_rowsOf hx
  rfl

theorem filter_isUntyped_rowsOf (name : String) (body : List SourceLine) :
    (rowsOf name body).filter Fragment.isUntyped = [] := by
  rw [List.filter_eq_nil_iff]
  intro x hx
  obtain ⟨value, rfl⟩ := exists_row_of_mem_rowsOf hx
  exact Bool.false_ne_true

theorem count_tableFooter_rowsOf (name : String) (body : List SourceLine) :
    (rowsOf name body).count .tableFooter = 0 := by
  rw [List.count_eq_zero]
  intro hx
  obtain ⟨value, hv⟩ := exists_row_of_mem_rowsOf hx
  cases hv

/-- A call that adds `fs` to the script. -/
theorem grows_of_written {e : CallEntry} (fs : List Fragment) (new : List Finding)
    (hs : e.after.script.toList = e.before.script.toList ++ fs)
    (ht : e.after.tables.toList =
      e.before.tables.toList ++ if e.call.opensTable then fs.filterMap Fragment.headerName? else [])
    (hl : e.after.lookups.toList =
      e.before.lookups.toList ++ if e.call.opensLookup then fs.filterMap Fragment.headerName? else [])
    (hf : e.after.findings.toList = e.before.findings.toList ++ new)
    (hd : List.Forall₂ Finding.Describes new ((fs.filter Fragment.isUntyped).map fun x ↦ (e, x)))
    (hb : (fs.filterMap Fragment.headerName?).length + e.before.place.openTables =
      fs.count .tableFooter + e.after.place.openTables) : Grows e.before e.after [e] := by
  have hw : e.written = fs := by simp [CallEntry.written, hs]
  refine ⟨?_, ?_, ?_, ⟨new, hf, ?_⟩, ?_⟩
  · simpa [hw] using hs
  · rw [ht]
    cases hc : e.call.opensTable <;> simp [hc, CallEntry.headers, hw]
  · rw [hl]
    cases hc : e.call.opensLookup <;> simp [hc, CallEntry.headers, hw]
  · simpa [CallEntry.untyped, hw] using hd
  · simpa [CallEntry.headers, hw] using hb

theorem grows_entry {e : CallEntry} (hc : e.before.Coherent) : Grows e.before e.after [e] := by
  obtain ⟨d, c⟩ := e
  have hy := c.yields_perform d
  generalize hr : c.perform d = reply at hy
  have ha : CallEntry.after ⟨d, c⟩ = reply.draft := congrArg Reply.draft hr
  cases hy with
  | refused f => apply grows_of_written [] [] <;> simp [ha]
  | opensTable name line hp =>
    apply grows_of_written [.tableHeader name] [] <;>
      simp [ha, hp, Call.opensTable, Call.opensLookup, Fragment.headerName?, Fragment.isUntyped, Block.place,
        Place.openTables]
  | closesTable line hp =>
    apply grows_of_written [.tableFooter] [] <;>
      simp [ha, hp, Call.opensTable, Call.opensLookup, Fragment.headerName?, Fragment.isUntyped, Block.place,
        Place.openTables]
  | writesColumn field line last strict hp ht =>
    apply grows_of_written [field.column last] [] <;> simp [ha, ht, Call.opensTable, Call.opensLookup]
  | findsColumn field line last hp ht =>
    have hnamed : d.blockName? = some d.blockLabel := hc.blockName?_eq (by simp [hp])
    have hd : Finding.Describes ⟨line.number, d.blockLabel, field.name, field.typeName⟩
        (⟨d, .writeColumn field line last false⟩, field.column last) :=
      ⟨field, line, last, false, rfl, hp, hnamed, rfl, rfl⟩
    apply grows_of_written [field.column last] [⟨line.number, d.blockLabel, field.name, field.typeName⟩] <;>
      simp [ha, ht, hd, Call.opensTable, Call.opensLookup]
  | opensLookup name line hp =>
    apply grows_of_written [.tableHeader name, .lookupColumns, .tableFooter] [] <;>
      simp [ha, hp, Call.opensTable, Call.opensLookup, Fragment.headerName?, Fragment.isUntyped, Block.place,
        Place.openTables]
  | writesRows name header w b body stop? hp hb =>
    have hbefore : d.place.openTables = 0 := by rw [hp]; rfl
    have hafter : b.place.openTables = 0 := by obtain rfl | rfl := hb <;> rfl
    apply grows_of_written (rowsOf name body) [] <;>
      simp [ha, hbefore, hafter, Call.opensTable, Call.opensLookup, filterMap_headerName?_rowsOf,
        filter_isUntyped_rowsOf, count_tableFooter_rowsOf]

theorem coherent_afterCalls {d : Draft} (hd : d.Coherent) (calls : List Call) : (afterCalls d calls).Coherent := by
  induction calls generalizing d with
  | nil => exact hd
  | cons c calls ih => exact ih ((c.yields_perform d).coherent hd)

theorem coherent_of_mem_history {d : Draft} (hd : d.Coherent) {calls : List Call} {e : CallEntry}
    (he : e ∈ history d calls) : e.before.Coherent := by
  induction calls generalizing d with
  | nil => cases he
  | cons c calls ih =>
    obtain rfl | he := List.mem_cons.1 he
    · exact hd
    · exact ih ((c.yields_perform d).coherent hd) he

theorem grows_afterCalls {d : Draft} (hd : d.Coherent) (calls : List Call) :
    Grows d (afterCalls d calls) (history d calls) := by
  induction calls generalizing d with
  | nil => exact .refl d
  | cons c calls ih => exact (grows_entry (e := ⟨d, c⟩) hd).trans (ih ((c.yields_perform d).coherent hd))

/-- What holds of a draft with the history `h`. -/
structure Accounted (d : Draft) (h : List CallEntry) : Prop where
  outside_iff_unnamed : d.place = .outside ↔ d.blockName? = none
  unnamed_iff_headless : d.blockName? = none ↔ d.header? = none
  /-- A block that is opened inside another one is refused with the name and the header of that one. -/
  nested : d.place ≠ .outside → ∃ outer header, d.blockName? = some outer ∧ d.header? = some header ∧
    ∀ name line,
      (Edit.openTable name line).run d = .error (.unbalanced line (.opened name outer header.number)) d ∧
      (Edit.openLookup name line).run d = .error (.unbalanced line (.opened name outer header.number)) d
  /-- No call has asked for a header that was missing. -/
  header_known : ∀ e ∈ h, (e.call.perform e.before).stop? ≠ some (.fault .noHeader)
  script_eq : d.script.toList = h.flatMap CallEntry.written
  /-- Every table that was started has been ended, but for the one that is open. -/
  balance : (d.script.toList.filterMap Fragment.headerName?).length =
    d.script.toList.count .tableFooter + d.place.openTables
  tables_eq : d.tables.toList = (h.filter (·.call.opensTable)).flatMap CallEntry.headers
  lookups_eq : d.lookups.toList = (h.filter (·.call.opensLookup)).flatMap CallEntry.headers
  untyped_eq : (h.flatMap CallEntry.untyped).map Prod.snd = d.script.toList.filter Fragment.isUntyped
  findings : List.Forall₂ Finding.Describes d.findings.toList (h.flatMap CallEntry.untyped)

theorem Coherent.nested {d : Draft} (hd : d.Coherent) (hp : d.place ≠ .outside) :
    ∃ outer header, d.blockName? = some outer ∧ d.header? = some header ∧ ∀ name line,
      (Edit.openTable name line).run d = .error (.unbalanced line (.opened name outer header.number)) d ∧
      (Edit.openLookup name line).run d = .error (.unbalanced line (.opened name outer header.number)) d := by
  have hn := hd.blockName?_eq hp
  have hheader : d.header? ≠ none := by
    intro h
    rw [hd.unnamed_iff_headless.2 h] at hn
    cases hn
  obtain ⟨header, hh⟩ := Option.ne_none_iff_exists'.1 hheader
  refine ⟨d.blockLabel, header, hn, hh, fun name line ↦ ?_⟩
  rw [← nestedFault_of_some hn hh]
  exact ⟨Edit.run_openTable_open hp, Edit.run_openLookup_open hp⟩

/-- After any calls, whichever of them have failed, the history of the calls accounts for all that the draft holds. -/
theorem accounted_afterCalls (calls : List Call) : Accounted (afterCalls {} calls) (history {} calls) := by
  have hc := coherent_afterCalls coherent_start calls
  have hg := grows_afterCalls coherent_start calls
  have hscript : (afterCalls {} calls).script.toList = (history {} calls).flatMap CallEntry.written := by
    simpa using hg.script
  refine ⟨hc.outside_iff_unnamed, hc.unnamed_iff_headless, hc.nested, ?_, hscript, ?_, ?_, ?_, ?_, ?_⟩
  · intro e he
    exact (e.call.yields_perform e.before).stop_ne_noHeader (coherent_of_mem_history coherent_start he)
  · have hb := hg.balance
    have hh : ((history {} calls).flatMap CallEntry.written).filterMap Fragment.headerName? =
        (history {} calls).flatMap CallEntry.headers := by
      rw [List.filterMap_flatMap]
      rfl
    rw [hscript, hh]
    simpa [Place.openTables] using hb
  · simpa using hg.tables
  · simpa using hg.lookups
  · rw [hscript]
    simp only [List.map_flatMap, List.filter_flatMap, CallEntry.map_snd_untyped]
  · obtain ⟨fs, hfs, hall⟩ := hg.findings
    obtain rfl : (afterCalls {} calls).findings.toList = fs := by simpa using hfs
    exact hall

end Draft

end SchemaDdl

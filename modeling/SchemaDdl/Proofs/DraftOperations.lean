import SchemaDdl.Proofs.OpenBlock

namespace SchemaDdl

def Field.column (field : Field) (last : Bool) : Fragment :=
  .column (ColumnName.ofField field.name) (columnTypeText field.typeName) field.required last

namespace Draft

variable {d : Draft} {name outer : String} {header line : SourceLine} {field : Field} {last strict : Bool}

theorem blockLabel_of_some (h : d.blockName? = some outer) : d.blockLabel = outer := by
  rw [blockLabel, h, Option.getD_some]

theorem Coherent.blockName?_eq (h : d.Coherent) (hp : d.place ≠ .outside) : d.blockName? = some d.blockLabel := by
  obtain ⟨outer, hn⟩ := Option.ne_none_iff_exists'.1 (mt h.outside_iff_unnamed.2 hp)
  rw [hn, blockLabel_of_some hn]

theorem nestedFault_of_some (hn : d.blockName? = some outer) (hh : d.header? = some header) :
    d.nestedFault name line = .unbalanced line (.opened name outer header.number) := by
  rw [nestedFault, hh, blockLabel_of_some hn]

namespace Edit

theorem run_openBlock_open (name : String) (line : SourceLine) (h : d.place ≠ .outside) :
    (openBlock name line).run d = .error (d.nestedFault name line) d := by
  obtain ⟨place, blockName?, header?, tables, lookups, findings, script⟩ := d
  cases place with
  | outside => exact absurd rfl h
  | inTable | inLookup => rfl

theorem run_openTable_outside (h : d.place = .outside) :
    (openTable name line).run d =
      .ok () { d.within (.table name line) with
        tables := d.tables.push name
        script := d.script.push (.tableHeader name) } := by
  cases d
  cases h
  rfl

theorem run_openTable_open (h : d.place ≠ .outside) :
    (openTable name line).run d = .error (d.nestedFault name line) d := by
  have hblock := run_openBlock_open name line h
  simp only [openTable, EStateM.run, bind, EStateM.bind] at hblock ⊢
  rw [hblock]

theorem run_openLookup_outside (h : d.place = .outside) :
    (openLookup name line).run d =
      .ok () { d.within .outside with
        lookups := d.lookups.push name
        script := ((d.script.push (.tableHeader name)).push .lookupColumns).push .tableFooter } := by
  cases d
  cases h
  rfl

theorem run_openLookup_open (h : d.place ≠ .outside) :
    (openLookup name line).run d = .error (d.nestedFault name line) d := by
  have hblock := run_openBlock_open name line h
  simp only [openLookup, EStateM.run, bind, EStateM.bind] at hblock ⊢
  rw [hblock]

theorem run_closeTable_inTable (h : d.place = .inTable) :
    (closeTable line).run d = .ok () { d.within .outside with script := d.script.push .tableFooter } := by
  cases d
  cases h
  rfl

theorem run_closeTable_of_ne (h : d.place ≠ .inTable) :
    (closeTable line).run d = .error (.unbalanced line .nothingToClose) d := by
  obtain ⟨place, blockName?, header?, tables, lookups, findings, script⟩ := d
  cases place with
  | outside | inLookup => rfl
  | inTable => exact absurd rfl h

theorem run_writeColumn_mapped {t : ColumnType} (h : d.place = .inTable)
    (ht : ColumnType.ofName? field.typeName = some t) :
    (writeColumn field line last strict).run d = .ok () { d with script := d.script.push (field.column last) } := by
  have hsome : ColumnType.ofName? field.typeName ≠ none := by simp [ht]
  cases d
  cases h
  simp only [writeColumn, if_neg hsome]
  rfl

theorem run_writeColumn_strict (h : d.place = .inTable) (ht : ColumnType.ofName? field.typeName = none) :
    (writeColumn field line last true).run d = .error (.unmappedType line.number field.typeName) d := by
  cases d
  cases h
  simp only [writeColumn, if_pos ht]
  rfl

theorem run_writeColumn_lenient (h : d.place = .inTable) (ht : ColumnType.ofName? field.typeName = none) :
    (writeColumn field line last false).run d =
      .ok () { d with
        findings := d.findings.push ⟨line.number, d.blockLabel, field.name, field.typeName⟩
        script := d.script.push (field.column last) } := by
  cases d
  cases h
  simp only [writeColumn, if_pos ht]
  rfl

theorem run_writeColumn_of_ne (h : d.place ≠ .inTable) :
    (writeColumn field line last strict).run d = .error (.malformed line .fieldOutsideRecord) d := by
  obtain ⟨place, blockName?, header?, tables, lookups, findings, script⟩ := d
  cases place with
  | outside | inLookup => rfl
  | inTable => exact absurd rfl h

theorem result_of_run_ok {e : Edit} {d' : Draft} (h : e.run d = .ok () d') : e.result d = .ok d' := by
  simp only [result, h]

theorem result_of_run_error {e : Edit} {f : Fault} {d' : Draft} (h : e.run d = .error f d') : e.result d = .error f := by
  simp only [result, h]

end Edit

theorem openTable_outside (h : d.At .outside) :
    d.openTable name line =
      .ok { d.within (.table name line) with
        tables := d.tables.push name
        script := d.script.push (.tableHeader name) } :=
  Edit.result_of_run_ok (Edit.run_openTable_outside (at_iff.1 h).1)

theorem nestedFault_table (name : String) (line : SourceLine) (h : d.At (.table outer header)) :
    d.place ≠ .outside ∧ d.nestedFault name line = .unbalanced line (.opened name outer header.number) := by
  obtain ⟨hp, hn, hh⟩ := at_iff.1 h
  exact ⟨by simp [hp, Block.place], nestedFault_of_some hn hh⟩

theorem openTable_table (h : d.At (.table outer header)) :
    d.openTable name line = .error (.unbalanced line (.opened name outer header.number)) := by
  obtain ⟨hp, hf⟩ := nestedFault_table name line h
  rw [← hf]
  exact Edit.result_of_run_error (Edit.run_openTable_open hp)

theorem openLookup_outside (h : d.At .outside) :
    d.openLookup name line =
      .ok { d.within .outside with
        lookups := d.lookups.push name
        script := ((d.script.push (.tableHeader name)).push .lookupColumns).push .tableFooter } :=
  Edit.result_of_run_ok (Edit.run_openLookup_outside (at_iff.1 h).1)

theorem openLookup_table (h : d.At (.table outer header)) :
    d.openLookup name line = .error (.unbalanced line (.opened name outer header.number)) := by
  obtain ⟨hp, hf⟩ := nestedFault_table name line h
  rw [← hf]
  exact Edit.result_of_run_error (Edit.run_openLookup_open hp)

theorem closeTable_table (h : d.At (.table outer header)) :
    d.closeTable line = .ok { d.within .outside with script := d.script.push .tableFooter } :=
  Edit.result_of_run_ok (Edit.run_closeTable_inTable (at_iff.1 h).1)

theorem closeTable_outside (h : d.At .outside) : d.closeTable line = .error (.unbalanced line .nothingToClose) :=
  Edit.result_of_run_error (Edit.run_closeTable_of_ne (by simp [(at_iff.1 h).1, Block.place]))

theorem writeColumn_mapped {t : ColumnType} (h : d.At (.table outer header))
    (ht : ColumnType.ofName? field.typeName = some t) :
    d.writeColumn field line last strict = .ok { d with script := d.script.push (field.column last) } :=
  Edit.result_of_run_ok (Edit.run_writeColumn_mapped (at_iff.1 h).1 ht)

theorem writeColumn_strict (h : d.At (.table outer header)) (ht : ColumnType.ofName? field.typeName = none) :
    d.writeColumn field line last true = .error (.unmappedType line.number field.typeName) :=
  Edit.result_of_run_error (Edit.run_writeColumn_strict (at_iff.1 h).1 ht)

theorem writeColumn_lenient (h : d.At (.table outer header)) (ht : ColumnType.ofName? field.typeName = none) :
    d.writeColumn field line last false =
      .ok { d with
        findings := d.findings.push ⟨line.number, outer, field.name, field.typeName⟩
        script := d.script.push (field.column last) } := by
  obtain ⟨hp, hn, -⟩ := at_iff.1 h
  rw [← blockLabel_of_some hn]
  exact Edit.result_of_run_ok (Edit.run_writeColumn_lenient hp ht)

theorem writeColumn_outside (h : d.At .outside) :
    d.writeColumn field line last strict = .error (.malformed line .fieldOutsideRecord) :=
  Edit.result_of_run_error (Edit.run_writeColumn_of_ne (by simp [(at_iff.1 h).1, Block.place]))

end Draft

end SchemaDdl

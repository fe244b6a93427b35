import SchemaDdl.ColumnName
import SchemaDdl.Field
import SchemaDdl.Sql

namespace SchemaDdl

inductive Place where
  | outside
  | inTable
  | inLookup
  deriving DecidableEq, Repr

/-- A column that was written without a column type. -/
structure Finding where
  lineNumber : Int
  block : String
  field : String
  typeName : String
  deriving DecidableEq, Repr

def Finding.message (f : Finding) : String :=
  s!"Line {f.lineNumber}: `{f.block}.{f.field}` has unmapped type `{f.typeName}`; emitted {noColumnType}"

structure Draft where
  place : Place := .outside
  blockName? : Option String := none
  header? : Option SourceLine := none
  tables : Array String := #[]
  lookups : Array String := #[]
  findings : Array Finding := #[]
  script : Array Fragment := #[]
  deriving DecidableEq, Repr

namespace Draft

def blockLabel (d : Draft) : String := d.blockName?.getD "None"

def enter (d : Draft) (place : Place) (name : String) (line : SourceLine) : Draft :=
  { d with place, blockName? := some name, header? := some line }

def leave (d : Draft) : Draft := { d with place := .outside, blockName? := none, header? := none }

def nestedFault (d : Draft) (name : String) (line : SourceLine) : Fault :=
  match d.header? with
  | some header => .unbalanced line (.opened name d.blockLabel header.number)
  | none => .noHeader

def write (d : Draft) (f : Fragment) : Draft := { d with script := d.script.push f }

/-- A program that changes a draft step by step. A fault does not undo the steps before it. -/
abbrev Edit := EStateM Fault Draft Unit

namespace Edit

def write (f : Fragment) : Edit := modify (·.write f)

def openBlock (name : String) (line : SourceLine) : Edit := do
  let d ← get
  if d.place = .outside then
    write (.tableHeader name)
    modify (·.enter .inTable name line)
  else throw (d.nestedFault name line)

def openTable (name : String) (line : SourceLine) : Edit := do
  openBlock name line
  modify fun d ↦ { d with tables := d.tables.push name }

def closeTable (line : SourceLine) : Edit := do
  if (← get).place = .inTable then
    write .tableFooter
    modify leave
  else throw (.unbalanced line .nothingToClose)

/-- Writes the column of a field. A type without a column type is a fault if `strict`, and a finding otherwise. -/
def writeColumn (field : Field) (line : SourceLine) (last strict : Bool) : Edit := do
  let d ← get
  if d.place = .inTable then
    if ColumnType.ofName? field.typeName = none then
      if strict then throw (.unmappedType line.number field.typeName)
      modify fun d ↦ { d with findings := d.findings.push ⟨line.number, d.blockLabel, field.name, field.typeName⟩ }
    write (.column (ColumnName.ofField field.name) (columnTypeText field.typeName) field.required last)
  else throw (.malformed line .fieldOutsideRecord)

def openLookup (name : String) (line : SourceLine) : Edit := do
  openBlock name line
  write .lookupColumns
  closeTable line
  modify fun d ↦ { d with lookups := d.lookups.push name }

def result (e : Edit) (d : Draft) : Except Fault Draft :=
  match e.run d with
  | .ok _ d => .ok d
  | .error f _ => .error f

end Edit

def openTable (d : Draft) (name : String) (line : SourceLine) : Except Fault Draft :=
  (Edit.openTable name line).result d

def closeTable (d : Draft) (line : SourceLine) : Except Fault Draft := (Edit.closeTable line).result d

def writeColumn (d : Draft) (field : Field) (line : SourceLine) (last strict : Bool) : Except Fault Draft :=
  (Edit.writeColumn field line last strict).result d

def openLookup (d : Draft) (name : String) (line : SourceLine) : Except Fault Draft :=
  (Edit.openLookup name line).result d

end Draft

end SchemaDdl

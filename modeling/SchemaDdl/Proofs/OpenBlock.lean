import SchemaDdl.Draft

namespace SchemaDdl

/-- The open block, where the place of a draft, the name and the header agree on one. -/
inductive Block where
  | outside
  | table (name : String) (header : SourceLine)
  | lookup (name : String) (header : SourceLine)
  deriving DecidableEq, Repr

namespace Block

def place : Block → Place
  | .outside => .outside
  | .table _ _ => .inTable
  | .lookup _ _ => .inLookup

def name? : Block → Option String
  | .outside => none
  | .table name _ => some name
  | .lookup name _ => some name

def header? : Block → Option SourceLine
  | .outside => none
  | .table _ header => some header
  | .lookup _ header => some header

theorem outside_or_open (b : Block) :
    b = .outside ∨ ∃ outer header, b.name? = some outer ∧ b.header? = some header := by
  cases b with
  | outside => exact .inl rfl
  | table outer header => exact .inr ⟨outer, header, rfl, rfl⟩
  | lookup outer header => exact .inr ⟨outer, header, rfl, rfl⟩

end Block

namespace Draft

/-- The open block of a draft. It is `outside` also where the three fields contradict each other. -/
def block (d : Draft) : Block :=
  match d.place, d.blockName?, d.header? with
  | .inTable, some name, some header => .table name header
  | .inLookup, some name, some header => .lookup name header
  | _, _, _ => .outside

def within (d : Draft) (b : Block) : Draft := { d with place := b.place, blockName? := b.name?, header? := b.header? }

/-- All three fields of the draft say that `b` is open. -/
def At (d : Draft) (b : Block) : Prop := d.within b = d

/-- The place, the name and the header of a draft agree. -/
structure Coherent (d : Draft) : Prop where
  outside_iff_unnamed : d.place = .outside ↔ d.blockName? = none
  unnamed_iff_headless : d.blockName? = none ↔ d.header? = none

variable {d : Draft} {b : Block}

@[simp]
theorem place_within : (d.within b).place = b.place := rfl

@[simp]
theorem blockName?_within : (d.within b).blockName? = b.name? := rfl

@[simp]
theorem header?_within : (d.within b).header? = b.header? := rfl

@[simp]
theorem tables_within : (d.within b).tables = d.tables := rfl

@[simp]
theorem lookups_within : (d.within b).lookups = d.lookups := rfl

@[simp]
theorem findings_within : (d.within b).findings = d.findings := rfl

@[simp]
theorem script_within : (d.within b).script = d.script := rfl

@[simp]
theorem block_mk (tables lookups : Array String) (findings : Array Finding) (script : Array Fragment) :
    block ⟨b.place, b.name?, b.header?, tables, lookups, findings, script⟩ = b := by
  cases b <;> rfl

@[simp]
theorem block_within : (d.within b).block = b := block_mk ..

theorem At.block_eq (h : d.At b) : d.block = b := by
  rw [← h, block_within]

theorem At.write (h : d.At b) (f : Fragment) : (d.write f).At b := congrArg (Draft.write · f) h

theorem at_iff : d.At b ↔ d.place = b.place ∧ d.blockName? = b.name? ∧ d.header? = b.header? := by
  obtain ⟨place, blockName?, header?, tables, lookups, findings, script⟩ := d
  simp [At, within, eq_comm]

theorem At.coherent (h : d.At b) : d.Coherent := by
  obtain ⟨hp, hn, hh⟩ := at_iff.1 h
  constructor
  · rw [hp, hn]
    cases b <;> simp [Block.place, Block.name?]
  · rw [hn, hh]
    cases b <;> simp [Block.name?, Block.header?]

theorem Coherent.at_block (h : d.Coherent) : d.At d.block := by
  obtain ⟨place, blockName?, header?, tables, lookups, findings, script⟩ := d
  obtain ⟨hp, hn⟩ := h
  cases place with
  | outside =>
    cases hp.1 rfl
    cases hn.1 rfl
    rfl
  | inTable | inLookup =>
    cases blockName? with
    | none => cases hp.2 rfl
    | some name =>
      cases header? with
      | none => cases hn.2 rfl
      | some header => rfl

theorem coherent_start : ({} : Draft).Coherent := At.coherent (b := .outside) rfl

end Draft

end SchemaDdl

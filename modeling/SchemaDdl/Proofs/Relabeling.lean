import SchemaDdl.Proofs.Acceptance

namespace SchemaDdl

/-- Another number for each line, and another text that trims to the same. -/
structure Relabeling where
  number : Int → Int
  text : String → String
  trim_text : ∀ s, Text.trim (text s) = Text.trim s

def Relabeling.renumber (f : Int → Int) : Relabeling := ⟨f, id, fun _ ↦ rfl⟩

variable {r : Relabeling} {o : Options} {l : SourceLine}

def SourceLine.relabel (r : Relabeling) (l : SourceLine) : SourceLine := ⟨r.number l.number, r.text l.text⟩

def Unbalanced.relabel (r : Relabeling) : Unbalanced → Unbalanced
  | .opened name outer outerLine => .opened name outer (r.number outerLine)
  | .nothingToClose => .nothingToClose
  | .rowsInside name outer => .rowsInside name outer
  | .lookupNeverClosed name => .lookupNeverClosed name
  | .neverClosed name => .neverClosed name

def Fault.relabel (r : Relabeling) : Fault → Fault
  | .malformed line cause => .malformed (line.relabel r) cause
  | .unbalanced line cause => .unbalanced (line.relabel r) (cause.relabel r)
  | .lineTooLong number limit => .lineTooLong (r.number number) limit
  | .unmappedType number typeName => .unmappedType (r.number number) typeName
  | .noTokens => .noTokens
  | .noHeader => .noHeader

def Stop.relabel (r : Relabeling) : Stop → Stop
  | .fault f => .fault (f.relabel r)
  | .undecodable f => .undecodable f

def Finding.relabel (r : Relabeling) (f : Finding) : Finding := { f with lineNumber := r.number f.lineNumber }

def Block.relabel (r : Relabeling) : Block → Block
  | .outside => .outside
  | .table name header => .table name (header.relabel r)
  | .lookup name header => .lookup name (header.relabel r)

def Draft.relabel (r : Relabeling) (d : Draft) : Draft :=
  { d with header? := d.header?.map (SourceLine.relabel r), findings := d.findings.map (Finding.relabel r) }

def Progress.relabel (r : Relabeling) (p : Progress) : Progress := { p with draft := p.draft.relabel r }

def Outcome.relabel (r : Relabeling) (s : Outcome) : Outcome := ⟨s.progress.relabel r, s.stop?.map (Stop.relabel r)⟩

theorem Progress.relabel_start (r : Relabeling) : ({} : Progress).relabel r = {} := by
  simp [Progress.relabel, Draft.relabel]

theorem Block.place_relabel (b : Block) : (b.relabel r).place = b.place := by
  cases b <;> rfl

theorem Block.name?_relabel (b : Block) : (b.relabel r).name? = b.name? := by
  cases b <;> rfl

theorem Block.header?_relabel (b : Block) : (b.relabel r).header? = b.header?.map (SourceLine.relabel r) := by
  cases b <;> rfl

theorem Draft.block_relabel (d : Draft) : (d.relabel r).block = d.block.relabel r := by
  obtain ⟨place, blockName?, header?, tables, lookups, findings, script⟩ := d
  cases place <;> cases blockName? <;> cases header? <;> rfl

theorem tokens_congr {s t : String} (h : Text.trim s = Text.trim t) : tokens s = tokens t := by
  have hends : Text.dropEnds Text.isBlank s.toList = Text.dropEnds Text.isBlank t.toList := by
    simpa [Text.trim] using congrArg String.toList h
  simp only [tokens, hends]

@[simp]
theorem SourceLine.trimmed_relabel : (l.relabel r).trimmed = l.trimmed := r.trim_text l.text

@[simp]
theorem SourceLine.tokens_relabel : tokens (l.relabel r).text = tokens l.text := tokens_congr (r.trim_text l.text)

@[simp]
theorem SourceLine.kind_relabel : (l.relabel r).kind = l.kind := by
  simp only [SourceLine.kind, SourceLine.tokens_relabel]

theorem blockName_relabel (ts : List String) :
    blockName ts (l.relabel r) = (blockName ts l).mapError (Fault.relabel r) := by
  unfold blockName
  split
  · rfl
  · split
    · split <;> rfl
    · rfl

theorem Field.ofTokens_relabel (ts : List String) :
    Field.ofTokens ts (l.relabel r) = (Field.ofTokens ts l).mapError (Fault.relabel r) := by
  unfold Field.ofTokens
  split
  · dsimp only
    split <;> rfl
  · rfl

namespace Automaton

variable {b : Block} {next? : Option SourceLine}

def Answer.relabel (r : Relabeling) (a : Answer) : Answer :=
  { a with
    block := a.block.relabel r
    findings := a.findings.map (Finding.relabel r)
    stop? := a.stop?.map (Stop.relabel r) }

/-- The limit on lengths says the same of a line and of the relabelled line. -/
def LimitIgnores (o : Options) (r : Relabeling) (l : SourceLine) : Prop :=
  lengthStop? o (l.relabel r) = (lengthStop? o l).map (Stop.relabel r)

theorem limitIgnores_of_text_eq (h : r.text l.text = l.text) : LimitIgnores o r l := by
  unfold LimitIgnores lengthStop?
  by_cases hlong : o.maxLineLength < l.text.length
  · simp [SourceLine.relabel, h, hlong, Stop.relabel, Fault.relabel]
  · simp [SourceLine.relabel, h, hlong]

theorem bind_lengthStop?_relabel (h : ∀ k, next? = some k → LimitIgnores o r k) :
    (next?.map (SourceLine.relabel r)).bind (lengthStop? o) = (next?.bind (lengthStop? o)).map (Stop.relabel r) := by
  cases next? with
  | none => rfl
  | some k => exact h k rfl

theorem any_isBrace_relabel : (next?.map (SourceLine.relabel r)).any isBrace = next?.any isBrace := by
  cases next? with
  | none => rfl
  | some k => simp only [Option.map_some, Option.any_some, isBrace, SourceLine.trimmed_relabel]

theorem columnAnswer_relabel (block : String) (header : SourceLine) (field : Field) (last : Bool) :
    columnAnswer o block (header.relabel r) (l.relabel r) field last =
      (columnAnswer o block header l field last).relabel r := by
  unfold columnAnswer
  split
  · rfl
  · split <;> rfl

theorem fieldAnswer_relabel (h : ∀ k, next? = some k → LimitIgnores o r k) :
    fieldAnswer o (b.relabel r) (l.relabel r) (next?.map (SourceLine.relabel r)) =
      (fieldAnswer o b l next?).relabel r := by
  unfold fieldAnswer
  rw [SourceLine.tokens_relabel, Field.ofTokens_relabel, bind_lengthStop?_relabel h, any_isBrace_relabel]
  cases Field.ofTokens (tokens l.text) l with
  | error f => rfl
  | ok field =>
    cases next?.bind (lengthStop? o) with
    | some s => rfl
    | none =>
      cases b with
      | outside => rfl
      | table name header => exact columnAnswer_relabel name header field _
      | lookup name header => rfl

theorem lookupAnswer_relabel (name : String) (header : SourceLine) :
    lookupAnswer name (header.relabel r) (l.relabel r) = (lookupAnswer name header l).relabel r := by
  by_cases hc : l.trimmed = closeBrace
  · rw [lookupAnswer_brace hc, lookupAnswer_brace (by rw [SourceLine.trimmed_relabel, hc])]
    rfl
  by_cases hb : l.trimmed = ""
  · rw [lookupAnswer_blank hb, lookupAnswer_blank (by rw [SourceLine.trimmed_relabel, hb])]
    rfl
  · rw [lookupAnswer_row hc hb, lookupAnswer_row (by rwa [SourceLine.trimmed_relabel])
      (by rwa [SourceLine.trimmed_relabel])]
    simp [Answer.relabel, Block.relabel, Draft.rowValue]

theorem answer_relabel (hl : LimitIgnores o r l) (h : ∀ k, next? = some k → LimitIgnores o r k) :
    answer o (b.relabel r) (l.relabel r) (next?.map (SourceLine.relabel r)) = (answer o b l next?).relabel r := by
  unfold answer
  rw [hl]
  cases lengthStop? o l with
  | some s => rfl
  | none =>
    cases b with
    | outside =>
      simp only [Option.map_none, Block.relabel, outsideAnswer, SourceLine.kind_relabel, SourceLine.tokens_relabel,
        blockName_relabel]
      cases l.kind with
      | record | enumeration => cases blockName (tokens l.text) l <;> rfl
      | field => exact fieldAnswer_relabel (b := .outside) h
      | close | noise => rfl
    | table outer header =>
      simp only [Option.map_none, Block.relabel, tableAnswer, SourceLine.kind_relabel, SourceLine.tokens_relabel,
        blockName_relabel]
      cases l.kind with
      | record | enumeration => cases blockName (tokens l.text) l <;> rfl
      | field => exact fieldAnswer_relabel (b := .table outer header) h
      | close | noise => rfl
    | lookup name header => exact lookupAnswer_relabel name header

theorem extend_relabel (p : Progress) (a : Answer) :
    extend (p.relabel r) (a.relabel r) = (extend p a).relabel r := by
  simp only [extend, Progress.relabel, Answer.relabel, Draft.relabel, Draft.place_within, Draft.blockName?_within,
    Draft.header?_within, Block.place_relabel, Block.name?_relabel, Block.header?_relabel, array_map_append_list]

theorem endStop?_relabel (b : Block) : endStop? (b.relabel r) = (endStop? b).map (Stop.relabel r) := by
  cases b <;> rfl

theorem runFrom_relabel (p : Progress) {ls : List SourceLine} (h : ∀ l ∈ ls, LimitIgnores o r l) :
    runFrom o (p.relabel r) (ls.map (SourceLine.relabel r)) = (runFrom o p ls).relabel r := by
  induction ls generalizing p with
  | nil =>
    have hend : endStop? (p.relabel r).draft.block = (endStop? p.draft.block).map (Stop.relabel r) := by
      rw [Progress.relabel, Draft.block_relabel, endStop?_relabel]
    rw [List.map_nil, runFrom_nil, runFrom_nil, hend]
    rfl
  | cons l ls ih =>
    have hls : ∀ k ∈ ls, LimitIgnores o r k := fun k hk ↦ h k (.tail l hk)
    have ha : answer o (p.relabel r).draft.block (l.relabel r) (ls.map (SourceLine.relabel r)).head? =
        (answer o p.draft.block l ls.head?).relabel r := by
      rw [List.head?_map, Progress.relabel, Draft.block_relabel]
      exact answer_relabel (h l (by simp)) fun k hk ↦ hls k (List.mem_of_head? hk)
    have hstop : ((answer o p.draft.block l ls.head?).relabel r).stop? =
        (answer o p.draft.block l ls.head?).stop?.map (Stop.relabel r) := rfl
    rw [List.map_cons]
    cases hs : (answer o p.draft.block l ls.head?).stop? with
    | some s =>
      rw [hs] at hstop
      rw [runFrom_stop hs, runFrom_stop (by rw [ha, hstop]; rfl), ha, extend_relabel]
      rfl
    | none =>
      rw [hs] at hstop
      rw [runFrom_cons hs, runFrom_cons (by rw [ha, hstop]; rfl), ha, extend_relabel, ih _ hls]

end Automaton

end SchemaDdl

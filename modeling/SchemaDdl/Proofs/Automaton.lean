import SchemaDdl.Proofs.DraftOperations
import SchemaDdl.Script

namespace SchemaDdl

section ArrayAppend

variable {α β : Type}

theorem array_append_list_list (xs : Array α) (as bs : List α) : xs ++ as ++ bs = xs ++ (as ++ bs) := by
  apply Array.ext'
  simp

theorem array_append_array_list (xs ys : Array α) (zs : List α) : xs ++ ys ++ zs = xs ++ (ys ++ zs) := by
  apply Array.ext'
  simp

theorem array_map_append_list (f : α → β) (xs : Array α) (ys : List α) : (xs ++ ys).map f = xs.map f ++ ys.map f := by
  apply Array.ext'
  simp

end ArrayAppend

namespace Automaton

/-- What a line adds to the output, the block it leaves open, and why the run ends with it if it does. -/
structure Answer where
  block : Block
  script : List Fragment := []
  tables : List String := []
  lookups : List String := []
  findings : List Finding := []
  events : List Event := []
  stop? : Option Stop := none

def Answer.halt (b : Block) (f : Fault) : Answer := { block := b, stop? := some (.fault f) }

/-- Why a line is not read: it has more characters than the options allow. -/
def lengthStop? (o : Options) (l : SourceLine) : Option Stop :=
  if o.maxLineLength < l.text.length then some (.fault (.lineTooLong l.number o.maxLineLength)) else none

def isBrace (l : SourceLine) : Bool := l.trimmed = closeBrace

def columnAnswer (o : Options) (block : String) (header l : SourceLine) (field : Field) (last : Bool) : Answer :=
  match ColumnType.ofName? field.typeName with
  | some _ => { block := .table block header, script := [field.column last] }
  | none =>
    if o.strict then .halt (.table block header) (.unmappedType l.number field.typeName)
    else
      { block := .table block header
        script := [field.column last]
        findings := [⟨l.number, block, field.name, field.typeName⟩]
        events := [.newColumnType field.typeName] }

/-- A field, which is well formed before the line after it is looked at. -/
def fieldAnswer (o : Options) (b : Block) (l : SourceLine) (next? : Option SourceLine) : Answer :=
  match Field.ofTokens (tokens l.text) l with
  | .error f => .halt b f
  | .ok field =>
    match next?.bind (lengthStop? o) with
    | some s => { block := b, stop? := some s }
    | none =>
      match b with
      | .table name header => columnAnswer o name header l field (next?.any isBrace)
      | _ => .halt b (.malformed l .fieldOutsideRecord)

def outsideAnswer (o : Options) (l : SourceLine) (next? : Option SourceLine) : Answer :=
  match l.kind with
  | .record =>
    match blockName (tokens l.text) l with
    | .error f => .halt .outside f
    | .ok name =>
      { block := .table name l, script := [.tableHeader name], tables := [name], events := [.creatingTable name] }
  | .enumeration =>
    match blockName (tokens l.text) l with
    | .error f => .halt .outside f
    | .ok name =>
      { block := .lookup name l
        script := [.tableHeader name, .lookupColumns, .tableFooter]
        lookups := [name]
        events := [.creatingLookup name] }
  | .field => fieldAnswer o .outside l next?
  | .close => .halt .outside (.unbalanced l .nothingToClose)
  | .noise => { block := .outside }

/-- A line inside a table. No other block may be opened there. -/
def tableAnswer (o : Options) (outer : String) (header l : SourceLine) (next? : Option SourceLine) : Answer :=
  let b := Block.table outer header
  match l.kind with
  | .record =>
    match blockName (tokens l.text) l with
    | .error f => .halt b f
    | .ok name =>
      { Answer.halt b (.unbalanced l (.opened name outer header.number)) with events := [.creatingTable name] }
  | .enumeration =>
    match blockName (tokens l.text) l with
    | .error f => .halt b f
    | .ok name =>
      { Answer.halt b (.unbalanced l (.opened name outer header.number)) with events := [.creatingLookup name] }
  | .field => fieldAnswer o b l next?
  | .close => { block := .outside, script := [.tableFooter] }
  | .noise => { block := b }

/-- A line inside an enumeration: its end, nothing, or a row. -/
def lookupAnswer (name : String) (header l : SourceLine) : Answer :=
  if isBrace l then { block := .outside }
  else if l.trimmed = "" then { block := .lookup name header }
  else { block := .lookup name header, script := [.row name (Draft.rowValue l)] }

theorem lookupAnswer_brace {l : SourceLine} (h : l.trimmed = closeBrace) (name : String) (header : SourceLine) :
    lookupAnswer name header l = { block := .outside } := by
  simp [lookupAnswer, isBrace, h]

theorem lookupAnswer_blank {l : SourceLine} (h : l.trimmed = "") (name : String) (header : SourceLine) :
    lookupAnswer name header l = { block := .lookup name header } := by
  have hc : ¬"" = closeBrace := by decide
  simp only [lookupAnswer, isBrace, h, hc, decide_false, Bool.false_eq_true, if_false, if_true]

theorem lookupAnswer_row {l : SourceLine} (hc : l.trimmed ≠ closeBrace) (h : l.trimmed ≠ "") (name : String)
    (header : SourceLine) :
    lookupAnswer name header l = { block := .lookup name header, script := [.row name (Draft.rowValue l)] } := by
  simp [lookupAnswer, isBrace, hc, h]

def answer (o : Options) (b : Block) (l : SourceLine) (next? : Option SourceLine) : Answer :=
  match lengthStop? o l with
  | some s => { block := b, stop? := some s }
  | none =>
    match b with
    | .outside => outsideAnswer o l next?
    | .table outer header => tableAnswer o outer header l next?
    | .lookup name header => lookupAnswer name header l

variable {o : Options} {b : Block} {l : SourceLine} {next? : Option SourceLine}

theorem answer_long {s : Stop} (h : lengthStop? o l = some s) :
    answer o b l next? = { block := b, stop? := some s } := by
  simp only [answer, h]

theorem answer_lookup (h : lengthStop? o l = none) (name : String) (header : SourceLine) :
    answer o (.lookup name header) l next? = lookupAnswer name header l := by
  simp only [answer, h]

theorem answer_unnamed {f : Fault} (h : lengthStop? o l = none) (hb : ∀ name header, b ≠ .lookup name header)
    (hk : l.kind = .record ∨ l.kind = .enumeration) (hn : blockName (tokens l.text) l = .error f) :
    answer o b l next? = .halt b f := by
  cases b with
  | outside => obtain hk | hk := hk <;> simp only [answer, h, outsideAnswer, hk, hn]
  | table outer header => obtain hk | hk := hk <;> simp only [answer, h, tableAnswer, hk, hn]
  | lookup name header => exact absurd rfl (hb name header)

theorem answer_field (h : lengthStop? o l = none) (hb : ∀ name header, b ≠ .lookup name header)
    (hk : l.kind = .field) : answer o b l next? = fieldAnswer o b l next? := by
  cases b with
  | outside => simp only [answer, h, outsideAnswer, hk]
  | table outer header => simp only [answer, h, tableAnswer, hk]
  | lookup name header => exact absurd rfl (hb name header)

theorem answer_noise (h : lengthStop? o l = none) (hb : ∀ name header, b ≠ .lookup name header)
    (hk : l.kind = .noise) : answer o b l next? = { block := b } := by
  cases b with
  | outside => simp only [answer, h, outsideAnswer, hk]
  | table outer header => simp only [answer, h, tableAnswer, hk]
  | lookup name header => exact absurd rfl (hb name header)

/-- The next line matters to a field that is read outside enumerations. -/
def LooksAhead (b : Block) (l : SourceLine) : Prop :=
  (∀ name header, b ≠ .lookup name header) ∧ l.kind = .field ∧ ∃ field, Field.ofTokens (tokens l.text) l = .ok field

/-- What is learnt of the next line: the fault of its length, and whether it ends the columns. -/
def glance (o : Options) (next? : Option SourceLine) : Option Stop × Bool :=
  (next?.bind (lengthStop? o), next?.any isBrace)

theorem fieldAnswer_congr {next' : Option SourceLine} (h : glance o next? = glance o next') :
    fieldAnswer o b l next? = fieldAnswer o b l next' := by
  obtain ⟨hs, hl⟩ := Prod.mk.inj h
  simp only [fieldAnswer, hs, hl]

/-- Of the next line the answer depends on nothing but the glance, and on that only where the line looks ahead. -/
theorem answer_congr {next' : Option SourceLine} (h : LooksAhead b l → glance o next? = glance o next') :
    answer o b l next? = answer o b l next' := by
  cases hs : lengthStop? o l with
  | some s => rw [answer_long hs, answer_long hs]
  | none =>
    have field (hb : ∀ name header, b ≠ .lookup name header) (hk : l.kind = .field) :
        answer o b l next? = answer o b l next' := by
      rw [answer_field hs hb hk, answer_field hs hb hk]
      cases hf : Field.ofTokens (tokens l.text) l with
      | error f => simp only [fieldAnswer, hf]
      | ok field => exact fieldAnswer_congr (h ⟨hb, hk, field, hf⟩)
    cases b with
    | outside =>
      cases hk : l.kind with
      | field => exact field nofun hk
      | record | enumeration | close | noise => simp only [answer, hs, outsideAnswer, hk]
    | table outer header =>
      cases hk : l.kind with
      | field => exact field nofun hk
      | record | enumeration | close | noise => simp only [answer, hs, tableAnswer, hk]
    | lookup name header => rw [answer_lookup hs, answer_lookup hs]

/-- The end of the document, which no block may be open at. -/
def endStop? : Block → Option Stop
  | .outside => none
  | .table name header => some (.fault (.unbalanced header (.neverClosed name)))
  | .lookup name header => some (.fault (.unbalanced header (.lookupNeverClosed name)))

def extend (p : Progress) (a : Answer) : Progress where
  draft :=
    { p.draft.within a.block with
      tables := p.draft.tables ++ a.tables
      lookups := p.draft.lookups ++ a.lookups
      findings := p.draft.findings ++ a.findings
      script := p.draft.script ++ a.script }
  events := p.events ++ a.events

def Answer.andThen (a a' : Answer) : Answer where
  block := a'.block
  script := a.script ++ a'.script
  tables := a.tables ++ a'.tables
  lookups := a.lookups ++ a'.lookups
  findings := a.findings ++ a'.findings
  events := a.events ++ a'.events
  stop? := a'.stop?

theorem at_extend (p : Progress) (a : Answer) : (extend p a).draft.At a.block := rfl

@[simp]
theorem block_extend (p : Progress) (a : Answer) : (extend p a).draft.block = a.block := (at_extend p a).block_eq

theorem extend_extend (p : Progress) (a a' : Answer) : extend (extend p a) a' = extend p (a.andThen a') := by
  simp only [extend, Answer.andThen, array_append_list_list]
  rfl

theorem extend_move (p : Progress) (b : Block) (stop? : Option Stop) :
    extend p { block := b, stop? := stop? } = { p with draft := p.draft.within b } := by
  simp [extend, Draft.within]

theorem extend_stay {p : Progress} {b : Block} {stop? : Option Stop} (h : p.draft.At b) :
    extend p { block := b, stop? := stop? } = p := by
  rw [extend_move, h]

/-- One line in the state that the lines before it leave. A run that has stopped passes over it. -/
def advance (o : Options) (s : Outcome) (x : SourceLine × Option SourceLine) : Outcome :=
  match s.stop? with
  | some _ => s
  | none =>
    let a := answer o s.progress.draft.block x.1 x.2
    ⟨extend s.progress a, a.stop?⟩

def finish (s : Outcome) : Outcome :=
  match s.stop? with
  | some _ => s
  | none => { s with stop? := endStop? s.progress.draft.block }

def withNext : List SourceLine → List (SourceLine × Option SourceLine)
  | [] => []
  | l :: ls => (l, ls.head?) :: withNext ls

def runFrom (o : Options) (p : Progress) (ls : List SourceLine) : Outcome :=
  finish ((withNext ls).foldl (advance o) ⟨p, none⟩)

def run (o : Options) (lines : List String) : Outcome := runFrom o {} (numberLines 1 lines)

theorem foldl_advance_stopped (o : Options) (s : Outcome) (stop : Stop) (h : s.stop? = some stop)
    (xs : List (SourceLine × Option SourceLine)) : xs.foldl (advance o) s = s := by
  induction xs with
  | nil => rfl
  | cons x xs ih =>
    have hx : advance o s x = s := by simp only [advance, h]
    rw [List.foldl_cons, hx, ih]

theorem runFrom_nil (o : Options) (p : Progress) : runFrom o p [] = ⟨p, endStop? p.draft.block⟩ := rfl

theorem runFrom_stop {o : Options} {p : Progress} {l : SourceLine} {ls : List SourceLine} {s : Stop}
    (h : (answer o p.draft.block l ls.head?).stop? = some s) :
    runFrom o p (l :: ls) = ⟨extend p (answer o p.draft.block l ls.head?), some s⟩ := by
  have hs : advance o ⟨p, none⟩ (l, ls.head?) = ⟨extend p (answer o p.draft.block l ls.head?), some s⟩ := by
    simp only [advance, h]
  unfold runFrom
  rw [withNext, List.foldl_cons, hs, foldl_advance_stopped o _ s rfl]
  rfl

theorem runFrom_cons {o : Options} {p : Progress} {l : SourceLine} {ls : List SourceLine}
    (h : (answer o p.draft.block l ls.head?).stop? = none) :
    runFrom o p (l :: ls) = runFrom o (extend p (answer o p.draft.block l ls.head?)) ls := by
  have hs : advance o ⟨p, none⟩ (l, ls.head?) = ⟨extend p (answer o p.draft.block l ls.head?), none⟩ := by
    simp only [advance, h]
  unfold runFrom
  rw [withNext, List.foldl_cons, hs]

theorem runFrom_step {o : Options} {p : Progress} {b : Block} {l : SourceLine} {ls : List SourceLine} {a : Answer}
    (hb : p.draft.block = b) (ha : answer o b l ls.head? = a) (hgo : a.stop? = none) :
    runFrom o p (l :: ls) = runFrom o (extend p a) ls := by
  subst hb ha
  exact runFrom_cons hgo

end Automaton

theorem SourceLine.kind_of_trimmed_empty {l : SourceLine} (h : l.trimmed = "") : l.kind = .noise := by
  have he : Text.dropEnds Text.isBlank l.text.toList = [] := by
    simpa [SourceLine.trimmed, Text.trim] using h
  simp [SourceLine.kind, tokens, he, Text.pieces, LineKind.ofTokens]

theorem SourceLine.kind_of_trimmed_brace {l : SourceLine} (h : l.trimmed = closeBrace) : l.kind = .close := by
  have he : Text.dropEnds Text.isBlank l.text.toList = ['\x7d'] := by
    have ht := congrArg String.toList h
    simpa [SourceLine.trimmed, Text.trim, closeBrace] using ht
  have hk : LineKind.ofTokens [String.ofList ['\x7d']] = .close := by decide
  simpa [SourceLine.kind, tokens, he, Text.pieces] using hk

def Options.standard : Options where
  extension := ".sql"
  strict := false
  maxFileSize := 10485760
  maxLineLength := 10000
  isExtension := by decide
  maxFileSize_pos := by decide
  maxLineLength_pos := by decide

end SchemaDdl

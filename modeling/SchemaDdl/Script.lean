import SchemaDdl.Draft.Rows
import SchemaDdl.Event
import SchemaDdl.Options

namespace SchemaDdl

structure Progress where
  draft : Draft := {}
  events : Array Event := #[]

structure Outcome where
  progress : Progress
  stop? : Option Stop

namespace Script

structure Step where
  progress : Progress
  window : Window
  stop? : Option Stop := none

def Step.fail (p : Progress) (w : Window) (f : Fault) : Step := ⟨p, w, some (.fault f)⟩

def Step.settle (p : Progress) (w : Window) : Except Fault Draft → Step
  | .ok d => ⟨{ p with draft := d }, w, none⟩
  | .error f => .fail p w f

def report (p : Progress) (e : Event) : Progress := { p with events := p.events.push e }

def recordLine (line : SourceLine) (p : Progress) (w : Window) : Step :=
  match blockName (tokens line.text) line with
  | .error f => .fail p w f
  | .ok name => .settle (report p (.creatingTable name)) w (p.draft.openTable name line)

def enumerationLine (line : SourceLine) (p : Progress) (w : Window) : Step :=
  match blockName (tokens line.text) line with
  | .error f => .fail p w f
  | .ok name =>
    let p := report p (.creatingLookup name)
    match p.draft.openLookup name line with
    | .error f => .fail p w f
    | .ok d =>
      let rows := d.writeRows name line w
      let stop? := match rows.result with
        | .ok _ => none
        | .error s => some s
      ⟨{ p with draft := rows.draft }, rows.window, stop?⟩

def endsColumns : Pull → Bool
  | .line l => l.trimmed = closeBrace
  | _ => false

/-- A field. The next line is looked at first, since a closing brace there makes the column the last one. -/
def fieldLine (strict : Bool) (line : SourceLine) (p : Progress) (w : Window) : Step :=
  match Field.ofTokens (tokens line.text) line with
  | .error f => .fail p w f
  | .ok field =>
    match w.peek with
    | (.stop s, w) => ⟨p, w, some s⟩
    | (shown, w) =>
      match p.draft.writeColumn field line (endsColumns shown) strict with
      | .error f => .fail p w f
      | .ok d =>
        let p := match ColumnType.ofName? field.typeName with
          | some _ => p
          | none => report p (.newColumnType field.typeName)
        ⟨{ p with draft := d }, w, none⟩

def line (strict : Bool) (l : SourceLine) (p : Progress) (w : Window) : Step :=
  if l.trimmed = "" then ⟨p, w, none⟩
  else
    match l.kind with
    | .record => recordLine l p w
    | .close => .settle p w (p.draft.closeTable l)
    | .enumeration => enumerationLine l p w
    | .field => fieldLine strict l p w
    | .noise => ⟨p, w, none⟩

def openAtEnd? (d : Draft) : Option Stop :=
  if d.place = .outside then none
  else d.header?.map fun header ↦ .fault (.unbalanced header (.neverClosed d.blockLabel))

theorem window_settle (p : Progress) (w : Window) (r : Except Fault Draft) : (Step.settle p w r).window = w := by
  cases r <;> rfl

theorem remaining_line_le (strict : Bool) (l : SourceLine) (p : Progress) (w : Window) :
    (line strict l p w).window.remaining ≤ w.remaining := by
  unfold line
  split
  · exact Nat.le_refl _
  split
  · unfold recordLine
    split
    · exact Nat.le_refl _
    · exact Nat.le_of_eq (congrArg Window.remaining (window_settle ..))
  · exact Nat.le_of_eq (congrArg Window.remaining (window_settle ..))
  · unfold enumerationLine
    split
    · exact Nat.le_refl _
    · dsimp only
      split
      · exact Nat.le_refl _
      · exact Draft.remaining_writeRows_le ..
  · unfold fieldLine
    split
    · exact Nat.le_refl _
    · have h := w.remaining_peek_le
      split
      next hp => rw [hp] at h; exact h
      next hp =>
        rw [hp] at h
        split <;> exact h
  · exact Nat.le_refl _

def run (strict : Bool) (p : Progress) (w : Window) : Outcome :=
  match h : w.next.1 with
  | .stop s => ⟨p, some s⟩
  | .done => ⟨p, openAtEnd? p.draft⟩
  | .line l =>
    have := Window.remaining_next_lt h
    let s := line strict l p w.next.2
    match s.stop? with
    | some stop => ⟨s.progress, some stop⟩
    | none => run strict s.progress s.window
termination_by w.remaining
decreasing_by exact Nat.lt_of_le_of_lt (remaining_line_le ..) ‹_›

def ofSupply (o : Options) (supply : Text.LineSupply) : Outcome :=
  run o.strict {} (.ofSupply supply (some o.maxLineLength))

/-- The script of a document given by its lines, with or without their terminators. -/
def ofLines (o : Options) (lines : List String) : Outcome := ofSupply o { lines }

def ofText (o : Options) (content : String) : Outcome := ofLines o (Text.splitLines content)

end Script

end SchemaDdl

import SchemaDdl.Fault
import SchemaDdl.Text.LineSupply

namespace SchemaDdl

inductive Stop where
  | fault (f : Fault)
  | undecodable (f : Text.Utf8.Fault)
  deriving DecidableEq, Repr

/-- A look-ahead of one line over the lines of a document, which holds every line to a limit of length. -/
structure Window where
  rest : List SourceLine
  /-- A line read ahead and not yet delivered. -/
  pending : Option SourceLine := none
  limit : Option Int := none
  broken? : Option Text.Utf8.Fault := none

def numberLines (n : Int) : List String → List SourceLine
  | [] => []
  | raw :: raws => ⟨n, Text.dropTerminator raw⟩ :: numberLines (n + 1) raws

inductive Pull where
  | line (l : SourceLine)
  | done
  | stop (s : Stop)
  deriving DecidableEq, Repr

namespace Window

def ofSupply (supply : Text.LineSupply) (limit : Option Int) : Window :=
  { rest := numberLines 1 supply.lines, limit, broken? := supply.fault? }

def tooLong? (w : Window) (l : SourceLine) : Option Int :=
  w.limit.filter fun m ↦ m < l.text.length

/-- Reads one line. A line that is too long is read as well, and skipped by the next reading. -/
def read (w : Window) : Pull × Window :=
  match w.rest with
  | [] =>
    match w.broken? with
    | none => (.done, w)
    | some f => (.stop (.undecodable f), w)
  | l :: ls =>
    match w.tooLong? l with
    | some m => (.stop (.fault (.lineTooLong l.number m)), { w with rest := ls })
    | none => (.line l, { w with rest := ls })

def next (w : Window) : Pull × Window :=
  match w.pending with
  | some l => (.line l, { w with pending := none })
  | none => w.read

def peek (w : Window) : Pull × Window :=
  match w.pending with
  | some l => (.line l, w)
  | none =>
    match w.read with
    | (.line l, w) => (.line l, { w with pending := some l })
    | other => other

def undelivered (w : Window) : List SourceLine := w.pending.toList ++ w.rest

def remaining (w : Window) : Nat := w.undelivered.length

theorem remaining_read (w : Window) (h : w.pending = none) : w.read.2.remaining = w.rest.length - 1 := by
  unfold read remaining undelivered
  split
  · split <;> simp_all
  · split <;> simp_all

theorem remaining_next_lt {w : Window} {l : SourceLine} (h : w.next.1 = .line l) :
    w.next.2.remaining < w.remaining := by
  unfold next at h ⊢
  split at h
  next p hp => simp [remaining, undelivered, hp]
  next hp =>
    cases hr : w.rest with
    | nil => cases hb : w.broken? <;> simp [read, hr, hb] at h
    | cons a as =>
      rw [remaining_read w hp]
      simp [remaining, undelivered, hp, hr]

theorem remaining_next_le (w : Window) : w.next.2.remaining ≤ w.remaining := by
  unfold next
  split
  next p hp => simp [remaining, undelivered, hp]
  next hp =>
    rw [remaining_read w hp]
    simp [remaining, undelivered, hp]

theorem remaining_peek_le (w : Window) : w.peek.2.remaining ≤ w.remaining := by
  unfold peek
  split
  · exact Nat.le_refl _
  next hp =>
    cases hr : w.rest with
    | nil => cases hb : w.broken? <;> simp [read, hr, hb]
    | cons a as => cases ht : w.tooLong? a <;> simp [read, hr, ht, remaining, undelivered, hp]

end Window

end SchemaDdl

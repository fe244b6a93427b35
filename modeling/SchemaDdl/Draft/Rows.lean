import SchemaDdl.Draft
import SchemaDdl.Window

namespace SchemaDdl.Draft

structure Rows where
  draft : Draft
  window : Window
  result : Except Stop Nat

def rowValue (line : SourceLine) : String := String.ofList (Text.dropLastIf ',' line.trimmed.toList)

/-- Reads lines until one is a closing brace and nothing else. Blank lines give no row. -/
def readRows (name : String) (header : SourceLine) (d : Draft) (count : Nat) (w : Window) : Rows :=
  match h : w.next.1 with
  | .stop s => ⟨d, w.next.2, .error s⟩
  | .done => ⟨d, w.next.2, .error (.fault (.unbalanced header (.lookupNeverClosed name)))⟩
  | .line l =>
    have := Window.remaining_next_lt h
    if l.trimmed = closeBrace then ⟨d.leave, w.next.2, .ok count⟩
    else if l.trimmed = "" then readRows name header d count w.next.2
    else readRows name header (d.write (.row name (rowValue l))) (count + 1) w.next.2
termination_by w.remaining

/-- Writes the rows of the lookup table `name`. If the body has no end the draft stays inside it. -/
def writeRows (d : Draft) (name : String) (header : SourceLine) (w : Window) : Rows :=
  if d.place = .outside then readRows name header (d.enter .inLookup name header) 0 w
  else ⟨d, w, .error (.fault (.unbalanced header (.rowsInside name d.blockLabel)))⟩

theorem remaining_readRows_le (name : String) (header : SourceLine) (d : Draft) (count : Nat) (w : Window) :
    (readRows name header d count w).window.remaining ≤ w.remaining := by
  fun_induction readRows name header d count w with
  | case1 => exact Window.remaining_next_le _
  | case2 => exact Window.remaining_next_le _
  | case3 => exact Window.remaining_next_le _
  | case4 _ _ w _ _ _ _ _ ih => exact Nat.le_trans ih (Window.remaining_next_le w)
  | case5 _ _ w _ _ _ _ _ ih => exact Nat.le_trans ih (Window.remaining_next_le w)

theorem remaining_writeRows_le (d : Draft) (name : String) (header : SourceLine) (w : Window) :
    (d.writeRows name header w).window.remaining ≤ w.remaining := by
  unfold writeRows
  split
  · exact remaining_readRows_le ..
  · exact Nat.le_refl _

end SchemaDdl.Draft

import SchemaDdl.Text.Blank
import SchemaDdl.Text.Digit

namespace SchemaDdl.Number

def asciiDigit? (c : Char) : Option Nat :=
  if '0' ≤ c ∧ c ≤ '9' then some (c.toNat - 48) else none

def ofDigits (base : Nat) (ds : List Nat) : Nat := ds.foldl (fun n d ↦ n * base + d) 0

def groupedDigits? (digit? : Char → Option Nat) (s : List Char) : Option (List Nat) := do
  let groups ← (Text.pieces '_' s).mapM (·.mapM digit?)
  if groups.any List.isEmpty then none else some groups.flatten

def splitSign : List Char → Bool × List Char
  | '-' :: cs => (true, cs)
  | '+' :: cs => (false, cs)
  | cs => (false, cs)

def withSign (negative : Bool) (n : Nat) : Int := if negative then -n else n

def maxDigits : Nat := 4300

/-- ASCII white space, which alone is removed around an integer. -/
def isSpace (c : Char) : Bool := c = ' ' ∨ ('\t' ≤ c ∧ c ≤ '\r')

def asciiForm (c : Char) : Char :=
  if c.toNat < 128 then c
  else if Text.isBlank c then ' '
  else
    match Text.decimalValue? c with
    | some d => Char.ofNat (48 + d)
    | none => c

def integer? (s : String) : Option Int := do
  let (negative, cs) := splitSign (Text.dropEnds isSpace (s.toList.map asciiForm))
  let ds ← groupedDigits? asciiDigit? cs
  if ds.length ≤ maxDigits then some (withSign negative (ofDigits 10 ds)) else none

end SchemaDdl.Number

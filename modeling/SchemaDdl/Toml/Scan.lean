import SchemaDdl.Value

namespace SchemaDdl.Toml

inductive Fault where
  | invalid
  | integerTooLong (digits : Nat)
  /-- Lists and tables stand in one another more deeply than can be read. -/
  | tooDeep
  deriving DecidableEq, Repr

abbrev Reader (α : Type) := List Char → Except Fault (α × List Char)

def isSpace (c : Char) : Bool := c = ' ' ∨ c = '\t'

def isSpaceOrFeed (c : Char) : Bool := isSpace c ∨ c = '\n'

def skipSpaces (cs : List Char) : List Char := cs.dropWhile isSpace

def isControl (c : Char) : Bool := c ≠ '\t' ∧ (c.toNat < 32 ∨ c.toNat = 127)

def isControlInBlock (c : Char) : Bool := isControl c ∧ c ≠ '\n'

def skipComment (cs : List Char) : Except Fault (List Char) :=
  match cs with
  | '#' :: rest =>
    if (rest.takeWhile (· ≠ '\n')).any isControl then .error .invalid else .ok (rest.dropWhile (· ≠ '\n'))
  | _ => .ok cs

def skipToItem : Nat → List Char → Except Fault (List Char)
  | 0, cs => .ok cs
  | fuel + 1, cs =>
    match cs.dropWhile isSpaceOrFeed with
    | '#' :: rest => do skipToItem fuel (← skipComment ('#' :: rest))
    | rest => .ok rest

def hexValue? (c : Char) : Option Nat :=
  if '0' ≤ c ∧ c ≤ '9' then some (c.toNat - 48)
  else if 'a' ≤ c ∧ c ≤ 'f' then some (c.toNat - 87)
  else if 'A' ≤ c ∧ c ≤ 'F' then some (c.toNat - 55)
  else none

end SchemaDdl.Toml

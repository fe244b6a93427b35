import SchemaDdl.Toml.Scan

namespace SchemaDdl.Toml

def fixedDigits? (count low high : Nat) (cs : List Char) : Option (Nat × List Char) := do
  let ds ← (cs.take count).mapM Number.asciiDigit?
  let n := Number.ofDigits 10 ds
  if ds.length = count ∧ low ≤ n ∧ n ≤ high then some (n, cs.drop count) else none

def mark? (c : Char) : List Char → Option (List Char)
  | d :: cs => if d = c then some cs else none
  | [] => none

/-- The digits of a fraction of a second. Those after the sixth are read and dropped. -/
def microseconds (cs : List Char) : Nat × List Char :=
  match cs with
  | '.' :: rest =>
    let ds := (rest.takeWhile Char.isDigit).take 6
    if ds.isEmpty then (0, cs)
    else
      let padding := List.replicate (6 - ds.length) 0
      (Number.ofDigits 10 (ds.filterMap Number.asciiDigit? ++ padding), rest.dropWhile Char.isDigit)
  | _ => (0, cs)

def time? (cs : List Char) : Option (TimeOfDay × List Char) := do
  let (hour, cs) ← fixedDigits? 2 0 23 cs
  let (minute, cs) ← fixedDigits? 2 0 59 (← mark? ':' cs)
  let (second, cs) ← fixedDigits? 2 0 59 (← mark? ':' cs)
  let (microsecond, cs) := microseconds cs
  return (⟨hour, minute, second, microsecond⟩, cs)

def offset (cs : List Char) : Option Int × List Char :=
  let numeric (sign : Int) (rest : List Char) : Option (Int × List Char) := do
    let (hour, rest) ← fixedDigits? 2 0 23 rest
    let (minute, rest) ← fixedDigits? 2 0 59 (← mark? ':' rest)
    return (sign * (hour * 60 + minute : Nat), rest)
  match cs with
  | c :: rest =>
    if c = 'Z' ∨ c = 'z' then (some 0, rest)
    else if c = '+' ∨ c = '-' then
      match numeric (if c = '-' then -1 else 1) rest with
      | some (minutes, rest) => (some minutes, rest)
      | none => (none, cs)
    else (none, cs)
  | [] => (none, cs)

/-- A date, with a time of day and an offset if they follow. A date that the calendar does not have is a fault. -/
def dateTime? (cs : List Char) : Option (Except Fault (Value × List Char)) := do
  let (year, rest) ← fixedDigits? 4 0 9999 cs
  let (month, rest) ← fixedDigits? 2 1 12 (← mark? '-' rest)
  let (day, rest) ← fixedDigits? 2 1 31 (← mark? '-' rest)
  let date : Date := ⟨year, month, day⟩
  let checked (v : Value) (rest : List Char) : Except Fault (Value × List Char) :=
    if date.isValid then .ok (v, rest) else .error .invalid
  match rest with
  | c :: after =>
    match (if c = 'T' ∨ c = 't' ∨ c = ' ' then time? after else none) with
    | some (time, rest) =>
      let (zone, rest) := offset rest
      return checked (.dateTime date time zone) rest
    | none => return checked (.date date) rest
  | [] => return checked (.date date) []

end SchemaDdl.Toml

import SchemaDdl.Toml.Scan

namespace SchemaDdl.Toml

def moreDigits (isDigit : Char → Bool) : List Char → List Char × List Char
  | [] => ([], [])
  | [c] => if isDigit c then ([c], []) else ([], [c])
  | c :: d :: cs =>
    if isDigit c then
      let (s, rest) := moreDigits isDigit (d :: cs)
      (c :: s, rest)
    else if c = '_' ∧ isDigit d then
      let (s, rest) := moreDigits isDigit cs
      (c :: d :: s, rest)
    else ([], c :: d :: cs)

def digitRun? (isDigit : Char → Bool) : List Char → Option (List Char × List Char)
  | [] => none
  | c :: cs =>
    if isDigit c then
      let (s, rest) := moreDigits isDigit cs
      some (c :: s, rest)
    else none

def basedInteger? : List Char → Option (Int × List Char)
  | mark :: cs => do
    let base ← if mark = 'x' then some 16 else if mark = 'o' then some 8 else if mark = 'b' then some 2 else none
    let digit? (c : Char) : Option Nat := (hexValue? c).filter (· < base)
    let (s, rest) ← digitRun? (fun c ↦ (digit? c).isSome) cs
    let ds ← Number.groupedDigits? digit? s
    return (Number.ofDigits base ds, rest)
  | [] => none

/-- The integer part of a decimal number: a zero, or digits of which the first is not zero. -/
def wholePart? : List Char → Option (List Char × List Char)
  | '0' :: cs => some (['0'], cs)
  | cs => digitRun? Char.isDigit cs

def fractionPart : List Char → List Char × List Char
  | '.' :: cs =>
    match digitRun? Char.isDigit cs with
    | some (s, rest) => ('.' :: s, rest)
    | none => ([], '.' :: cs)
  | cs => ([], cs)

def exponentPart (cs : List Char) : List Char × List Char :=
  match cs with
  | mark :: rest =>
    if mark = 'e' ∨ mark = 'E' then
      let sign := rest.takeWhile fun c ↦ c = '+' ∨ c = '-'
      if sign.length ≤ 1 then
        match digitRun? Char.isDigit (rest.drop sign.length) with
        | some (s, rest) => (mark :: sign ++ s, rest)
        | none => ([], cs)
      else ([], cs)
    else ([], cs)
  | [] => ([], cs)

def decimal? (cs : List Char) : Option (Except Fault (Value × List Char)) := do
  let sign := (cs.take 1).takeWhile fun c ↦ c = '+' ∨ c = '-'
  let (whole, rest) ← wholePart? (cs.drop sign.length)
  let (fraction, rest) := fractionPart rest
  let (exponent, rest) := exponentPart rest
  if fraction.isEmpty ∧ exponent.isEmpty then
    let ds ← Number.groupedDigits? Number.asciiDigit? whole
    if Number.maxDigits < ds.length then return .error (.integerTooLong ds.length)
    return .ok (.int (Number.withSign (sign = ['-']) (Number.ofDigits 10 ds)), rest)
  else
    let x ← Double.ofText? (sign ++ whole ++ fraction ++ exponent)
    return .ok (.float x, rest)

def number? (cs : List Char) : Option (Except Fault (Value × List Char)) :=
  match cs with
  | '0' :: rest =>
    match basedInteger? rest with
    | some (n, rest) => some (.ok (.int n, rest))
    | none => decimal? cs
  | _ => decimal? cs

def specialFloat? (cs : List Char) : Option (Value × List Char) :=
  [3, 4].findSome? fun n ↦
    let s := cs.take n
    if (n = 3 ∨ s.head? = some '+' ∨ s.head? = some '-') ∧
        (s.drop (n - 3) = ['i', 'n', 'f'] ∨ s.drop (n - 3) = ['n', 'a', 'n']) then
      (Double.ofText? s).map fun x ↦ (.float x, cs.drop n)
    else none

end SchemaDdl.Toml

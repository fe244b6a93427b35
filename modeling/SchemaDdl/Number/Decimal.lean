import SchemaDdl.Number.Double

namespace SchemaDdl.Number

def fraction (alternate : Bool) (ds : List Char) : List Char :=
  if ds.isEmpty && !alternate then [] else '.' :: ds

/-- At most `count` digits of a number, the last one rounded, a half to the even one, with the exponent of the first. -/
def significant (count n : Nat) : List Char × Nat :=
  let size := Double.decimalLength n
  if size ≤ count then (Nat.toDigits 10 n, size - 1)
  else
    let ds := Nat.toDigits 10 (Double.roundDiv n (Nat.pow 10 (size - count)))
    (ds.take count, size - 1 + (ds.length - count))

def padded (count : Nat) (ds : List Char) : List Char := ds ++ List.replicate (count - ds.length) '0'

def fixed (alternate : Bool) (places n : Nat) : List Char :=
  Nat.toDigits 10 n ++ fraction alternate (List.replicate places '0')

def scientific (alternate : Bool) (places n : Nat) : List Char :=
  let (ds, e) := significant (places + 1) n
  ds.take 1 ++ fraction alternate (padded places (ds.drop 1)) ++ Double.exponentMark e

/-- A notation with `count` digits, of which there is one at least. It has an exponent if they do not reach the point. -/
def general (alternate : Bool) (count n : Nat) : List Char :=
  let count := max 1 count
  let (ds, e) := significant count n
  let before := if e < count then e + 1 else 1
  let after := ds.drop before
  ds.take before ++
    fraction alternate (if alternate then padded (count - before) after else Text.dropTail (· = '0') after) ++
    if e < count then [] else Double.exponentMark e

end SchemaDdl.Number

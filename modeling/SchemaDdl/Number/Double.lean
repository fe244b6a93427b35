import SchemaDdl.Number.Integer

namespace SchemaDdl

/-- A finite number is `mantissa * 2 ^ exponent`, with the sign apart, so that zero has two signs. -/
inductive Double where
  | finite (negative : Bool) (mantissa : Nat) (exponent : Int)
  | infinite (negative : Bool)
  | nan
  deriving DecidableEq, Repr

namespace Double

def roundDiv (n d : Nat) : Nat :=
  let k := n / d
  let r := n % d
  if 2 * r < d then k else if d < 2 * r then k + 1 else k + k % 2

def decimalLength (n : Nat) : Nat := (Nat.toDigits 10 n).length

def powFraction (b : Nat) (e : Int) : Nat × Nat := if 0 ≤ e then (b.pow e.toNat, 1) else (1, b.pow (-e).toNat)

def leastExponent : Int := -1074

def nearest (negative : Bool) (n d : Nat) : Double :=
  let estimate := (n.log2 : Int) - d.log2 - 52
  let scaled (q : Int) : Nat × Nat :=
    let (p, r) := powFraction 2 q
    (n * r, d * p)
  let (sn, sd) := scaled estimate
  let q := max (if sn < sd * Nat.pow 2 52 then estimate - 1 else estimate) leastExponent
  let (sn, sd) := scaled q
  let m := roundDiv sn sd
  let (m, q) := if m = Nat.pow 2 53 then (Nat.pow 2 52, q + 1) else (m, q)
  if 971 < q then .infinite negative else .finite negative m q

/-- The number nearest to `digits * 10 ^ e`. The bounds keep far exponents from being computed with. -/
def ofDecimal (negative : Bool) (digits : Nat) (e : Int) : Double :=
  let magnitude := decimalLength digits + e
  if digits = 0 ∨ magnitude < -330 then .finite negative 0 0
  else if 310 < magnitude then .infinite negative
  else
    let (p, r) := powFraction 10 e
    nearest negative (digits * p) r

def ofText? (s : List Char) : Option Double := do
  let (negative, body) := Number.splitSign s
  if body = ['i', 'n', 'f'] then return .infinite negative
  if body = ['n', 'a', 'n'] then return .nan
  let isExp (c : Char) : Bool := c = 'e' ∨ c = 'E'
  let number := body.takeWhile (! isExp ·)
  let exponent := (body.dropWhile (! isExp ·)).drop 1
  let whole := number.takeWhile (· ≠ '.')
  let fraction := (number.dropWhile (· ≠ '.')).drop 1
  let wholeDigits ← Number.groupedDigits? Number.asciiDigit? whole
  let fractionDigits ← if fraction.isEmpty then some [] else Number.groupedDigits? Number.asciiDigit? fraction
  let (down, expBody) := Number.splitSign exponent
  let expDigits ← if exponent.isEmpty then some [] else Number.groupedDigits? Number.asciiDigit? expBody
  let e := Number.withSign down (Number.ofDigits 10 expDigits)
  return ofDecimal negative (Number.ofDigits 10 (wholeDigits ++ fractionDigits)) (e - fractionDigits.length)

def floorLog (n d : Nat) : Int :=
  if d ≤ n then (decimalLength (n / d) : Int) - 1 else -(decimalLength (d / n) : Int)

/-- The decimal `c * 10 ^ g` with at most `count` digits that is nearest to `m * 2 ^ q`, if it reads back. In quarters of
the last place, the numbers that read back reach two up, and two down or one below a power of two; the ends count if
`m` is even. -/
def decimalAt? (m : Nat) (q : Int) (count : Nat) : Option (Nat × Int) :=
  let (p, r) := powFraction 2 (q - 2)
  let k := floorLog (4 * m * p) r
  let g := k - count + 1
  let (a, b) := powFraction 10 g
  let unit := p * b
  let grid := r * a
  let value := 4 * m * unit
  let low := (4 * m - if m = Nat.pow 2 52 ∧ leastExponent < q then 1 else 2) * unit
  let high := (4 * m + 2) * unit
  let inside (c : Nat) : Bool :=
    if m % 2 = 0 then low ≤ c * grid ∧ c * grid ≤ high else low < c * grid ∧ c * grid < high
  let below := value / grid
  let c := roundDiv value grid
  let other := if c = below then below + 1 else below
  if inside c then some (c, g) else if inside other then some (other, g) else none

/-- The shortest decimal that reads back as `m * 2 ^ q`, `m` positive. Seventeen digits always do. -/
def shortest (m : Nat) (q : Int) : Nat × Int :=
  ((List.range 17).findSome? fun n ↦ decimalAt? m q (n + 1)).getD (m, q)

def isPositional (e : Int) : Bool := -4 ≤ e ∧ e < 16

def exponentMark (e : Int) : List Char :=
  let digits := Nat.toDigits 10 e.natAbs
  'e' :: (if e < 0 then '-' else '+') :: List.replicate (2 - digits.length) '0' ++ digits

def layout (ds : List Char) (e : Int) : List Char :=
  if isPositional e then
    if e < 0 then '0' :: '.' :: List.replicate ((-e).toNat - 1) '0' ++ ds
    else
      let width := e.toNat + 1
      let fraction := ds.drop width
      (ds ++ List.replicate (width - ds.length) '0').take width ++ '.' ::
        (if fraction.isEmpty then ['0'] else fraction)
  else
    ds.take 1 ++ (if ds.length ≤ 1 then [] else '.' :: ds.drop 1) ++ exponentMark e

def text : Double → String
  | .nan => "nan"
  | .infinite negative => if negative then "-inf" else "inf"
  | .finite negative m q =>
    let sign := if negative then ['-'] else []
    if m = 0 then String.ofList (sign ++ ['0', '.', '0'])
    else
      let (c, g) := shortest m q
      let ds := Nat.toDigits 10 c
      String.ofList (sign ++ layout (Text.dropTail (· = '0') ds) (g + ds.length - 1))

end Double

end SchemaDdl

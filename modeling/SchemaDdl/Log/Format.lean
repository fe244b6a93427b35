import SchemaDdl.Log.Record
import SchemaDdl.Number.Decimal
import SchemaDdl.Text.Word

namespace SchemaDdl.Log

structure Spec where
  flags : List Char := []
  width : Nat := 0
  precision : Option Nat := none
  conversion : Char

inductive Piece where
  | plain (c : Char)
  | field (name : Option String) (spec : Spec)

def isFlag (c : Char) : Bool := c = '#' ∨ c = '0' ∨ c = '+' ∨ c = ' ' ∨ c = '-'

def digits (cs : List Char) : List Char × List Char := (cs.takeWhile Char.isDigit, cs.dropWhile Char.isDigit)

def numeral (ds : List Char) : Nat := Number.ofDigits 10 (ds.filterMap Number.asciiDigit?)

def maxExtent : Nat := Nat.pow 2 31 - 1

/-- A field's layout, after its name. A letter for the size of numbers is passed over. -/
def spec? (cs : List Char) : Option (Spec × List Char) :=
  let flags := cs.takeWhile isFlag
  let (width, rest) := digits (cs.dropWhile isFlag)
  let (precision, rest) : Option Nat × List Char :=
    match rest with
    | '.' :: rest => (some (numeral (digits rest).1), (digits rest).2)
    | rest => (none, rest)
  let rest := if rest.head?.any (['h', 'l', 'L'].contains ·) then rest.drop 1 else rest
  match rest with
  | c :: rest =>
    if maxExtent < numeral width ∨ maxExtent < precision.getD 0 then none
    else some ({ flags, width := numeral width, precision, conversion := c }, rest)
  | [] => none

def pieces? : Nat → List Char → Option (List Piece)
  | 0, _ => none
  | _ + 1, [] => some []
  | fuel + 1, '%' :: '%' :: cs => (pieces? fuel cs).map (.plain '%' :: ·)
  | fuel + 1, '%' :: '(' :: cs => do
    let name := cs.takeWhile (· ≠ ')')
    let (spec, rest) ← spec? ((cs.dropWhile (· ≠ ')')).drop 1)
    return .field (some (String.ofList name)) spec :: (← pieces? fuel rest)
  | fuel + 1, '%' :: cs => do
    let (spec, rest) ← spec? cs
    return .field none spec :: (← pieces? fuel rest)
  | fuel + 1, c :: cs => (pieces? fuel cs).map (.plain c :: ·)

/-- Fills a text up to the field's width. Zeros go between what leads a number and its digits. -/
def Spec.fill (s : Spec) (lead body : List Char) (zeros : Bool) : List Char :=
  let gap := s.width - (lead.length + body.length)
  if '-' ∈ s.flags then lead ++ body ++ List.replicate gap ' '
  else if zeros then lead ++ List.replicate gap '0' ++ body
  else List.replicate gap ' ' ++ lead ++ body

def Spec.alternate (s : Spec) : Bool := s.flags.contains '#'

def Spec.sign (s : Spec) (n : Int) : List Char :=
  if n < 0 then ['-'] else if '+' ∈ s.flags then ['+'] else if ' ' ∈ s.flags then [' '] else []

def Spec.integer (s : Spec) (base : Nat) (mark : List Char) (n : Int) : List Char :=
  let ds := Nat.toDigits base n.natAbs
  s.fill (s.sign n ++ if s.alternate then mark else []) (List.replicate (s.precision.getD 0 - ds.length) '0' ++ ds)
    ('0' ∈ s.flags)

def Spec.decimal (s : Spec) (notate : Bool → Nat → Nat → List Char) (n : Int) : List Char :=
  s.fill (s.sign n) (notate s.alternate (s.precision.getD 6) n.natAbs) ('0' ∈ s.flags)

def Spec.text (s : Spec) (t : String) : List Char :=
  s.fill [] ((s.precision.map t.toList.take).getD t.toList) false

def maxDigits : Nat := maxExtent - 3

/-- The greatest precision leaves no room to count the digit before the point, and is none. -/
def scientific (alternate : Bool) (precision n : Nat) : List Char :=
  Number.scientific alternate (if precision = maxExtent then 0 else precision) n

def Spec.textForm? (s : Spec) (t : String) : Option (Unit → List Char) :=
  match s.conversion with
  | 's' => some fun _ ↦ s.text t
  | 'r' => some fun _ ↦ s.text (Text.quoted t)
  | 'a' => some fun _ ↦ s.text (Text.asciiOnly (Text.quoted t))
  | 'c' => if t.length = 1 then some fun _ ↦ s.fill [] t.toList false else none
  | _ => none

def Spec.intForm? (s : Spec) (n : Int) : Option (Unit → List Char) :=
  let integer (base : Nat) (mark : List Char) : Option (Unit → List Char) :=
    if maxDigits < s.precision.getD 0 then none else some fun _ ↦ s.integer base mark n
  let upper (form : Unit → List Char) (_ : Unit) : List Char := (form ()).map Char.toUpper
  match s.conversion with
  | 's' | 'r' | 'a' => some fun _ ↦ s.text (toString n)
  | 'd' | 'i' | 'u' => integer 10 []
  | 'o' => integer 8 ['0', 'o']
  | 'x' => integer 16 ['0', 'x']
  | 'X' => (integer 16 ['0', 'x']).map upper
  | 'f' | 'F' => some fun _ ↦ s.decimal Number.fixed n
  | 'e' => some fun _ ↦ s.decimal scientific n
  | 'E' => some (upper fun _ ↦ s.decimal scientific n)
  | 'g' => some fun _ ↦ s.decimal Number.general n
  | 'G' => some (upper fun _ ↦ s.decimal Number.general n)
  | 'c' => if 0 ≤ n ∧ n.toNat.isValidChar then some fun _ ↦ s.fill [] [Char.ofNat n.toNat] false else none
  | _ => none

def Spec.form? (s : Spec) : Datum → Option (Unit → List Char)
  | .text t => s.textForm? t
  | .int n => s.intForm? n
  | .compound t =>
    match s.conversion with
    | 's' | 'r' => some fun _ ↦ s.text t
    | 'a' => some fun _ ↦ s.text (Text.asciiOnly t)
    | _ => none

def Piece.form? (e : Event) : Piece → Option (Unit → List Char)
  | .plain c => some fun _ ↦ [c]
  | .field (some name) spec => (datum? e name).bind spec.form?
  | .field none spec => spec.form? (.compound (recordText e))

def Piece.isField : Piece → Bool
  | .plain _ => false
  | .field .. => true

def Piece.isNameless : Piece → Bool
  | .field none _ => true
  | _ => false

def isPlaced (ps : List Piece) : Bool := !((ps.filter Piece.isField).drop 1).any Piece.isNameless

/-- The line of an event, if the format can be filled in. Texts are made when all fields are known to have one. -/
def line? (format : String) (e : Event) : Option String := do
  let ps ← pieces? (format.length + 1) format.toList
  let forms ← if isPlaced ps then ps.mapM (·.form? e) else none
  return String.ofList (forms.flatMap (· ())) ++ "\n"

def isConversion (c : Char) : Bool :=
  ['d', 'i', 'o', 'u', 'x', 'e', 'f', 'g', 'c', 'r', 's', 'a', '%', 'ſ', 'ı', 'İ'].contains c.toLower

def startsWithField (cs : List Char) : Bool :=
  match cs with
  | '%' :: '(' :: rest =>
    let name := rest.takeWhile Text.isWord
    match rest.dropWhile Text.isWord with
    | ')' :: rest =>
      let counted : List Char → List Char
        | '*' :: rest => rest
        | rest => rest.dropWhile fun c ↦ (Text.decimalValue? c).isSome
      let rest := counted (rest.dropWhile isFlag)
      let rest := match rest with
        | '.' :: after => if (counted after).length < after.length then counted after else rest
        | _ => rest
      !name.isEmpty && rest.head?.any isConversion
    | _ => false
  | _ => false

def isFormat : List Char → Bool
  | [] => false
  | c :: cs => startsWithField (c :: cs) || isFormat cs

end SchemaDdl.Log

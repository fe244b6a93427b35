import SchemaDdl.Text.Lowercase
import SchemaDdl.Text.Uppercase

namespace SchemaDdl.ColumnName

def startsWord (c : Char) : Bool := 'A' ≤ c ∧ c ≤ 'Z'

def markWords (s : List Char) : List Char :=
  s.flatMap fun c ↦ if startsWord c then ['_', c] else [c]

/-- The words of a name in upper case, joined by underscores. A name without a lower-case character has no word starts
to mark. -/
def upperSnake : List Char → List Char
  | [] => []
  | c :: cs =>
    if (c :: cs).any Text.isLowercase then Text.upper (c :: markWords cs) else Text.upper (c :: cs)

def ofField (name : String) : String := String.ofList (upperSnake name.toList)

end SchemaDdl.ColumnName

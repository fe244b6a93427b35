import SchemaDdl.Text.CodePoints

namespace SchemaDdl.Text

/-- The characters that trimming removes, in ascending order. The zero-width space and the byte order mark are not
among them. -/
def blankRuns : List Run :=
  [⟨0x9, 0xd, 1⟩, ⟨0x1c, 0x20, 1⟩, ⟨0x85, 0x85, 1⟩, ⟨0xa0, 0xa0, 1⟩, ⟨0x1680, 0x1680, 1⟩,
   ⟨0x2000, 0x200a, 1⟩, ⟨0x2028, 0x2029, 1⟩, ⟨0x202f, 0x202f, 1⟩, ⟨0x205f, 0x205f, 1⟩, ⟨0x3000, 0x3000, 1⟩]

def isBlank (c : Char) : Bool := inRuns blankRuns c.toNat

def dropTail (p : Char → Bool) (s : List Char) : List Char := (s.reverse.dropWhile p).reverse

def dropEnds (p : Char → Bool) (s : List Char) : List Char := dropTail p (s.dropWhile p)

def trim (s : String) : String := String.ofList (dropEnds isBlank s.toList)

def dropLastIf (c : Char) (s : List Char) : List Char :=
  if s.getLast? = some c then s.dropLast else s

/-- The pieces between occurrences of `sep`, empty ones included. There is always at least one. -/
def pieces (sep : Char) : List Char → List (List Char)
  | [] => [[]]
  | c :: cs =>
    if c = sep then [] :: pieces sep cs
    else
      match pieces sep cs with
      | [] => [[c]]
      | w :: ws => (c :: w) :: ws

end SchemaDdl.Text

import SchemaDdl.Text.Blank

namespace SchemaDdl.Text

def isLineEnd (c : Char) : Bool :=
  inRuns [⟨0xa, 0xd, 1⟩, ⟨0x1c, 0x1e, 1⟩, ⟨0x85, 0x85, 1⟩, ⟨0x2028, 0x2029, 1⟩] c.toNat

/-- Each carriage return, with the line feed after it if there is one, becomes one line feed. The Boolean tells whether
the text after a character starts with a line feed. -/
def joinReturns (s : List Char) : List Char :=
  (s.foldr
    (fun c (rest, feed) ↦
      if c = '\r' then (if feed then rest else '\n' :: rest, false) else (c :: rest, c = '\n'))
    ([], false)).1

def dropPairedReturns (s : List Char) : List Char :=
  (s.foldr (fun c (rest, feed) ↦ if c = '\r' ∧ feed then (rest, false) else (c :: rest, c = '\n')) ([], false)).1

/-- The lines of a text: each end closes one, and what follows the last end is a line only if it is not empty. -/
def linesBy (isEnd : Char → Bool) (s : List Char) : List (List Char) :=
  s.foldr
    (fun c lines ↦
      if isEnd c then [] :: lines
      else
        match lines with
        | [] => [[c]]
        | l :: ls => (c :: l) :: ls)
    []

def splitLines (s : String) : List String :=
  (linesBy isLineEnd (joinReturns s.toList)).map String.ofList

def dropTerminator (s : String) : String :=
  String.ofList (dropTail (fun c ↦ c = '\r' ∨ c = '\n') s.toList)

end SchemaDdl.Text

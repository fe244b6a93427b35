import SchemaDdl.Text.Blank
import SchemaDdl.Text.Digit

namespace SchemaDdl

/-- A line of a document with its number. The text has no line terminator but keeps its white space. -/
structure SourceLine where
  number : Int
  text : String
  deriving DecidableEq, Repr

def SourceLine.trimmed (l : SourceLine) : String := Text.trim l.text

/-- The tokens of a line: the pieces of its trimmed text between single spaces. Two spaces in a row enclose an empty
token, and a blank line is one empty token. -/
def tokens (text : String) : List String :=
  (Text.pieces ' ' (Text.dropEnds Text.isBlank text.toList)).map String.ofList

inductive LineKind where
  | record
  | enumeration
  | field
  | close
  | noise
  deriving DecidableEq, Repr

def closeBrace : String := "\x7d"

def LineKind.ofTokens : List String → LineKind
  | [] => .noise
  | first :: _ =>
    if first = "struct" then .record
    else if first = "enum" then .enumeration
    else
      match first.toList with
      | [] => .noise
      | c :: _ => if Text.isDigit c then .field else if c = '\x7d' then .close else .noise

def SourceLine.kind (l : SourceLine) : LineKind := .ofTokens (tokens l.text)

end SchemaDdl

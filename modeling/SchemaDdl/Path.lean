import SchemaDdl.Text.Blank

namespace SchemaDdl

/-- How a path starts. Two slashes are kept apart from one; three or more are one. -/
inductive Anchor where
  | relative | root | doubleRoot
  deriving DecidableEq, Repr

def Anchor.text : Anchor → String
  | .relative => ""
  | .root => "/"
  | .doubleRoot => "//"

/-- Components are never empty and never a single dot. -/
structure Path where
  anchor : Anchor := .relative
  parts : List String
  deriving DecidableEq, Repr

namespace Path

def components (s : List Char) : List String :=
  ((Text.pieces '/' s).map String.ofList).filter fun p ↦ p ≠ "" ∧ p ≠ "."

def ofString (s : String) : Path where
  anchor :=
    match (s.toList.takeWhile (· = '/')).length with
    | 0 => .relative
    | 2 => .doubleRoot
    | _ => .root
  parts := components s.toList

def text (p : Path) : String :=
  match p.anchor, p.parts with
  | .relative, [] => "."
  | anchor, parts => anchor.text ++ "/".intercalate parts

def join (p q : Path) : Path :=
  match q.anchor with
  | .relative => { p with parts := p.parts ++ q.parts }
  | _ => q

def parent (p : Path) : Path := { p with parts := p.parts.dropLast }

def name (p : Path) : String := p.parts.getLastD ""

/-- A name cut before its last dot, unless the dot is its first or its last character. -/
def splitName (s : List Char) : List Char × List Char :=
  let after := (s.reverse.takeWhile (· ≠ '.')).reverse
  let before := s.take (s.length - after.length - 1)
  if before.isEmpty ∨ after.isEmpty then (s, []) else (before, '.' :: after)

def stem (p : Path) : String := String.ofList (splitName p.name.toList).1

def suffix (p : Path) : String := String.ofList (splitName p.name.toList).2

/-- Where the script of a schema file goes: into the given directory, or else beside the schema, under the given name,
or else the schema's stem with the extension. An empty name counts as none. -/
def output (schema : Path) (directory : Option Path) (name : Option String) (extension : String) : Path :=
  let default := schema.stem ++ extension
  let name := match name with
    | some n => if n = "" then default else n
    | none => default
  (directory.getD schema.parent).join (ofString name)

end Path

end SchemaDdl

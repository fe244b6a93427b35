import SchemaDdl.CommandLine.Run

namespace SchemaDdl.CommandLine

structure Footprint where
  read : List Location
  listed : List Location
  deriving DecidableEq, Repr

/-- The schema and the files that may hold its settings are read. The output is in the schema's directory, in the
directory that is given, or below it if its name says so. -/
def footprint (h : Host) (current : Location) (words : List String) : Footprint :=
  let t : FileTree := { entries := [], current }
  match Words.read {} none words with
  | .error _ => ⟨[], []⟩
  | .ok w =>
    match w.arguments with
    | [] => ⟨[], []⟩
    | schema :: rest =>
      let path := (expandHome h (Path.ofString schema)).toOption.getD (Path.ofString schema)
      let schema := t.resolve path
      let directory := (rest.head?.map Path.ofString).getD path.parent
      let named := ((rest.drop 1).head?.map Path.ofString).getD { parts := [] }
      let settings := (Settings.searched schema.dropLast).map fun s ↦ s.1.parts
      ⟨schema :: settings, [schema.dropLast, t.resolve directory, (t.resolve (directory.join named)).dropLast]⟩

def onTheWay (loc : Location) : List Location := (List.range (loc.length + 1)).map loc.take

inductive Change where
  | removed (loc : Location)
  | put (loc : Location) (e : Entry)
  deriving DecidableEq, Repr

/-- The newest entry of a tree stands first. -/
def changes (before after : FileTree) : List Change :=
  let removed := before.entries.filter fun e ↦ (after.find? e.1).isNone
  let made := after.entries.reverse.filter fun e ↦ before.find? e.1 ≠ some e.2
  removed.map (fun e ↦ .removed e.1) ++ made.map fun e ↦ .put e.1 e.2

end SchemaDdl.CommandLine

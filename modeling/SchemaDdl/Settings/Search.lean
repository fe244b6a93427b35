import SchemaDdl.FileTree
import SchemaDdl.Settings
import SchemaDdl.Text.Utf8
import SchemaDdl.Toml.Document

namespace SchemaDdl.Settings

/-- The files that may hold settings, in the order of their precedence, with the tables looked for in each. -/
def candidates : List (String × List (List String)) :=
  [("pyproject.toml", [["tool", "thrift-sql"]]),
   (".thrift-sql.toml", [["thrift-sql"], ["tool", "thrift-sql"]])]

inductive TableCause where
  | notTable
  | key (f : KeyFault)
  deriving DecidableEq, Repr

inductive SearchFault where
  | invalidTable (table : List String) (file : Path) (cause : TableCause)
  | undecodable (f : Text.Utf8.Fault)
  | integerTooLong (digits : Nat)
  | tooDeep
  | access (f : AccessFault)
  deriving DecidableEq, Repr

def tableMessage (table : List String) (file : Path) : String :=
  let name := ".".intercalate table
  s!"Invalid `[{name}]` settings in {file.text}"

def SearchFault.message : SearchFault → String
  | .invalidTable table file _ => tableMessage table file
  | .undecodable f => f.message
  | .integerTooLong digits =>
    s!"Exceeds the limit ({Number.maxDigits} digits) for integer string conversion: value has {digits} digits; " ++
      "use sys.set_int_max_str_digits() to increase the limit"
  | .tooDeep => "maximum recursion depth exceeded"
  | .access f => f.message

def ofTable (v : Value) (file : Path) (table : List String) : Except SearchFault Settings :=
  match v with
  | .table entries =>
    match ofEntries entries with
    | .ok s => .ok s
    | .error f => .error (.invalidTable table file (.key f))
  | _ => .error (.invalidTable table file .notTable)

def firstTable (v : Value) (file : Path) : List (List String) → Except SearchFault (Option Settings)
  | [] => .ok none
  | table :: tables =>
    match v.at? table with
    | some found => (ofTable found file table).map some
    | none => firstTable v file tables

/-- The settings in a file, if there are any. A file that is missing, cannot be read or is no TOML has none; but its
bytes must be a text. -/
def inFile (limit : Toml.Limit) (t : FileTree) (file : Path) (tables : List (List String)) :
    Except SearchFault (Option Settings) :=
  match t.exists? file.text with
  | .error f => .error (.access f)
  | .ok false => .ok none
  | .ok true =>
    match t.readFile file.text with
    | .error _ => .ok none
    | .ok bytes =>
      match Text.Utf8.decode bytes with
      | .error f => .error (.undecodable f)
      | .ok text =>
        match Toml.parse limit text with
        | .error .invalid => .ok none
        | .error (.integerTooLong digits) => .error (.integerTooLong digits)
        | .error .tooDeep => .error .tooDeep
        | .ok root => firstTable (.table root) file tables

def firstFile (limit : Toml.Limit) (t : FileTree) : List (Path × List (List String)) → Except SearchFault Settings
  | [] => .ok {}
  | (file, tables) :: rest =>
    match inFile limit t file tables with
    | .error f => .error f
    | .ok (some s) => .ok s
    | .ok none => firstFile limit t rest

def upward (loc : Location) : List Location :=
  (List.range (loc.length + 1)).map fun i ↦ loc.take (loc.length - i)

def searched (loc : Location) : List (Path × List (List String)) :=
  (upward loc).flatMap fun dir ↦
    candidates.map fun (name, tables) ↦ (FileTree.locationPath (dir ++ [name]), tables)

def load (limit : Toml.Limit) (t : FileTree) (path : Path) : Except SearchFault Settings :=
  if path.parts.any fun p ↦ '\x00' ∈ p.toList then .error (.access .nullCharacter)
  else firstFile limit t (searched (t.resolve path))

inductive BuildFault where
  | search (f : SearchFault)
  | key (f : KeyFault)
  | invalid (f : Fault)
  deriving DecidableEq, Repr

def build (limit : Toml.Limit) (t : FileTree) (path : Path) (overrides : List (String × Value)) :
    Except BuildFault (Settings × Options) := do
  if overrides.any (·.1 = "search_path") then .error (.key (.taken "build_config" "search_path"))
  let s ← (load limit t path).mapError BuildFault.search
  let s ← (s.override overrides).mapError BuildFault.key
  let o ← s.check.mapError BuildFault.invalid
  return (s, o)

end SchemaDdl.Settings

import SchemaDdl.Event
import SchemaDdl.Text.Quoted

namespace SchemaDdl.Log

inductive Detail where
  | path (text : String)
  | name (s : String)
  | count (n : Nat)
  deriving DecidableEq, Repr

def Detail.text : Detail → String
  | .path p => s!"PosixPath({Text.quoted p})"
  | .name s => Text.quoted s
  | .count n => toString n

def wording : Event → String
  | .starting _ => "starting thrift-sql on %s"
  | .outputChosen _ => "outputPath = %s"
  | .creatingTable _ => "creating table - %s"
  | .creatingLookup _ => "creating lookup table - %s"
  | .newColumnType _ => "found new column type - %s"
  | .wrote .. => "wrote %d tables and %d lookups to %s"

def details : Event → List Detail
  | .starting path => [.path path]
  | .outputChosen path => [.path path]
  | .creatingTable name => [.name name]
  | .creatingLookup name => [.name name]
  | .newColumnType typeName => [.name typeName]
  | .wrote tables lookups path => [.count tables, .count lookups, .path path]

/-- The details in brackets. A comma follows one that stands alone. -/
def detailsText (ds : List Detail) : String :=
  let listed := ", ".intercalate (ds.map Detail.text)
  let comma := if ds.length = 1 then "," else ""
  s!"({listed}{comma})"

inductive Datum where
  | text (s : String)
  | int (n : Int)
  | compound (written : String)
  deriving DecidableEq, Repr

def Datum.written : Datum → String
  | .text s => Text.quoted s
  | .int n => toString n
  | .compound s => s

def leadingData (e : Event) : List (String × Datum) :=
  [("name", .text e.origin), ("msg", .text (wording e)), ("args", .compound (detailsText (details e))),
   ("levelname", .text e.level.name), ("levelno", .int e.level.rank)]

def datum? (e : Event) (name : String) : Option Datum :=
  (leadingData e ++ [("message", Datum.text e.message)]).lookup name

/-- How a record is written as a whole, as far as its beginning. What follows the leading data tells of the place and
the time of the event, from the path of the place on, and is not the same everywhere. -/
def recordText (e : Event) : String :=
  let entries := (leadingData e).map fun (key, d) ↦ Text.quoted key ++ ": " ++ d.written
  "\x7b" ++ ", ".intercalate entries ++ ", 'pathname': '/"

end SchemaDdl.Log

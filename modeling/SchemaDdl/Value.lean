import SchemaDdl.Calendar
import SchemaDdl.Number.Double

namespace SchemaDdl

inductive Value where
  /-- No value at all. No file writes it; a caller may. -/
  | absent
  | bool (b : Bool)
  | int (n : Int)
  | float (x : Double)
  | text (s : String)
  | date (d : Date)
  | time (t : TimeOfDay)
  | dateTime (d : Date) (t : TimeOfDay) (offset : Option Int)
  | list (items : List Value)
  /-- Keys are distinct and stand in the order of their definition. -/
  | table (entries : List (String × Value))
  deriving Inhabited

abbrev Table := List (String × Value)

namespace Table

def get? : Table → String → Option Value
  | [], _ => none
  | (k, v) :: rest, key => if k = key then some v else get? rest key

def put (key : String) (value : Value) : Table → Table
  | [] => [(key, value)]
  | (k, v) :: rest => if k = key then (key, value) :: rest else (k, v) :: put key value rest

end Table

def Value.at? : Value → List String → Option Value
  | v, [] => some v
  | .table entries, key :: keys => (Table.get? entries key).bind (·.at? keys)
  | _, _ :: _ => none

end SchemaDdl

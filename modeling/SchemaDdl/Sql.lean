namespace SchemaDdl

inductive ColumnType where
  | varchar | smallInt | int | bigInt | double | bit
  deriving DecidableEq, Repr

def ColumnType.ofName? : String → Option ColumnType
  | "string" => some .varchar
  | "i16" => some .smallInt
  | "i32" => some .int
  | "i64" => some .bigInt
  | "double" => some .double
  | "bool" => some .bit
  | _ => none

def ColumnType.text : ColumnType → String
  | .varchar => "VARCHAR(255)"
  | .smallInt => "SMALLINT"
  | .int => "INT"
  | .bigInt => "BIGINT"
  | .double => "DOUBLE"
  | .bit => "BIT"

def noColumnType : String := "NULL_VALUE"

def columnTypeText (typeName : String) : String :=
  ((ColumnType.ofName? typeName).map ColumnType.text).getD noColumnType

inductive Fragment where
  | tableHeader (name : String)
  | tableFooter
  | column (name type : String) (required last : Bool)
  | lookupColumns
  /-- One row of a lookup table. The value is written as it is. -/
  | row (table value : String)
  deriving DecidableEq, Repr

/-- A nullable column keeps the space before the place of `NOT NULL`. -/
def Fragment.text : Fragment → String
  | .tableHeader name => "CREATE TABLE `" ++ name ++ "` (\n"
  | .tableFooter => ");\n\n"
  | .column name type required last =>
    "\t`" ++ name ++ "` " ++ type ++ " " ++ (if required then "NOT NULL" else "") ++
      (if last then "" else ",") ++ "\n"
  | .lookupColumns =>
    "\tID INT NOT NULL AUTO_INCREMENT PRIMARY KEY,\n\tVALUE VARCHAR(255) NOT NULL\n"
  | .row table value => "INSERT INTO " ++ table ++ " (`VALUE`) VALUES ('" ++ value ++ "');\n"

def scriptText (script : Array Fragment) : String :=
  script.foldl (fun s f ↦ s ++ f.text) ""

end SchemaDdl

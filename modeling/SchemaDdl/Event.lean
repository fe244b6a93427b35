namespace SchemaDdl

inductive Event where
  | starting (path : String)
  | outputChosen (path : String)
  | creatingTable (name : String)
  | creatingLookup (name : String)
  | newColumnType (typeName : String)
  | wrote (tables lookups : Nat) (path : String)
  deriving DecidableEq, Repr

inductive Level where
  | debug | info
  deriving DecidableEq, Repr

def Level.rank : Level → Int
  | .debug => 10
  | .info => 20

def Level.name : Level → String
  | .debug => "DEBUG"
  | .info => "INFO"

def Event.level : Event → Level
  | .starting _ => .info
  | .wrote .. => .info
  | _ => .debug

def Event.origin : Event → String
  | .creatingTable _ => "thrift_sql.emitter"
  | .creatingLookup _ => "thrift_sql.emitter"
  | .newColumnType _ => "thrift_sql.emitter"
  | _ => "thrift_sql.translator"

def Event.message : Event → String
  | .starting path => s!"starting thrift-sql on {path}"
  | .outputChosen path => s!"outputPath = {path}"
  | .creatingTable name => s!"creating table - {name}"
  | .creatingLookup name => s!"creating lookup table - {name}"
  | .newColumnType typeName => s!"found new column type - {typeName}"
  | .wrote tables lookups path => s!"wrote {tables} tables and {lookups} lookups to {path}"

end SchemaDdl

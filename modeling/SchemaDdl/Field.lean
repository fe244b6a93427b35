import SchemaDdl.Fault

namespace SchemaDdl

def blockName (ts : List String) (line : SourceLine) : Except Fault String :=
  match ts with
  | [] => .error .noTokens
  | keyword :: rest =>
    match rest with
    | name :: _ => if name = "" then .error (.malformed line (.unnamedBlock keyword)) else .ok name
    | [] => .error (.malformed line (.unnamedBlock keyword))

structure Field where
  ordinal : String
  required : Bool
  typeName : String
  name : String
  deriving DecidableEq, Repr

/-- A field's name less the separator at its end: one comma or semicolon, then one colon. -/
def bareName (token : String) : String :=
  let s := token.toList
  let s := if s.getLast? = some ',' ∨ s.getLast? = some ';' then s.dropLast else s
  String.ofList (Text.dropLastIf ':' s)

/-- A field is its ordinal, a marker, a type and a name; further tokens are ignored. -/
def Field.ofTokens (ts : List String) (line : SourceLine) : Except Fault Field :=
  match ts with
  | ordinal :: marker :: typeName :: token :: _ =>
    let name := bareName token
    if name = "" then .error (.malformed line .unnamedField)
    else .ok { ordinal, required := marker = "required", typeName, name }
  | _ => .error (.malformed line (.shortField ts.length))

end SchemaDdl

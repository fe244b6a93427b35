import SchemaDdl.Settings

namespace SchemaDdl.Settings

def LimitKey.variable : LimitKey → String
  | .fileSize => "THRIFT_SQL_MAX_FILE_SIZE"
  | .lineLength => "THRIFT_SQL_MAX_LINE_LENGTH"

inductive VariableFault where
  | notInteger (key : LimitKey) (text : String)
  | notPositive (key : LimitKey) (n : Int)
  deriving DecidableEq, Repr

def VariableFault.message : VariableFault → String
  | .notInteger key text => s!"Invalid value for {key.variable}: {text} (expected positive integer)"
  | .notPositive key n => s!"{key.variable} must be a positive integer, got {n}."

def limitFrom (env : String → Option String) (key : LimitKey) (default : Value) : Except VariableFault Value :=
  match env key.variable with
  | none => .ok default
  | some text =>
    match Number.integer? text with
    | none => .error (.notInteger key text)
    | some n => if 0 < n then .ok (.int n) else .error (.notPositive key n)

end SchemaDdl.Settings

import SchemaDdl.Line
import SchemaDdl.Text.Quoted

namespace SchemaDdl

inductive Malformed where
  | unnamedBlock (keyword : String)
  | shortField (count : Nat)
  | unnamedField
  | fieldOutsideRecord
  deriving DecidableEq, Repr

def Malformed.reason : Malformed → String
  | .unnamedBlock keyword => s!"`{keyword}` without a name"
  | .shortField count => s!"field needs 4 tokens, found {count}"
  | .unnamedField => "field without a name"
  | .fieldOutsideRecord => "field outside of a struct"

inductive Unbalanced where
  | opened (name outer : String) (outerLine : Int)
  | nothingToClose
  | rowsInside (name outer : String)
  | lookupNeverClosed (name : String)
  | neverClosed (name : String)
  deriving DecidableEq, Repr

def Unbalanced.reason : Unbalanced → String
  | .opened name outer outerLine => s!"`{name}` opened before `{outer}` (line {outerLine}) was closed"
  | .nothingToClose => "closing brace without an open block"
  | .rowsInside name outer => s!"`{name}` values read inside `{outer}`"
  | .lookupNeverClosed name => s!"`enum {name}` is never closed"
  | .neverClosed name => s!"`{name}` is never closed"

inductive Fault where
  | malformed (line : SourceLine) (cause : Malformed)
  | unbalanced (line : SourceLine) (cause : Unbalanced)
  | lineTooLong (number limit : Int)
  | unmappedType (number : Int) (typeName : String)
  /-- The name of a block was asked of a line without any token. -/
  | noTokens
  /-- The header of the open block was asked for where none is known. -/
  | noHeader
  deriving DecidableEq, Repr

def lineMessage (line : SourceLine) (reason : String) : String :=
  s!"Line {line.number}: {reason}: {Text.quoted line.trimmed}"

def Fault.message : Fault → String
  | .malformed line cause => lineMessage line cause.reason
  | .unbalanced line cause => lineMessage line cause.reason
  | .lineTooLong number limit => s!"Line {number} exceeds maximum allowed length of {limit} characters"
  | .unmappedType number typeName => s!"Line {number}: no SQL type for `{typeName}`"
  | .noTokens => "list index out of range"
  | .noHeader => "'NoneType' object has no attribute 'number'"

end SchemaDdl

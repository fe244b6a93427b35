import SchemaDdl.Log.Format

namespace SchemaDdl

structure Log where
  level : Int := 0
  format? : Option String := none
  deriving DecidableEq, Repr

namespace Log

def defaultFormat : String := "[%(levelname)s] thrift-sql: %(message)s"

inductive Fault where
  | noField (format : String)
  deriving DecidableEq, Repr

def Fault.message : Fault → String
  | .noField format => s!"Invalid format '{format}' for '%' style"

/-- Sets the level and then the format. A format without fields is refused when the level is set already. -/
def configure (log : Log) (level : Int) (format : Option String) : Log × Except Fault Unit :=
  let format := match format with
    | none => defaultFormat
    | some f => if f = "" then defaultFormat else f
  if isFormat format.toList then ({ level, format? := some format }, .ok ())
  else ({ log with level }, .error (.noField format))

/-- The rank from which events are shown: level zero stands for that of warnings. -/
def threshold (log : Log) : Int := if log.level = 0 then 30 else log.level

def text (log : Log) (events : Array Event) : String :=
  match log.format? with
  | none => ""
  | some format =>
    events.foldl (fun s e ↦ if log.threshold ≤ e.level.rank then s ++ (line? format e).getD "" else s) ""

end Log

end SchemaDdl

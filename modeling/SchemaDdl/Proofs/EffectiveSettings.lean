import SchemaDdl.CommandLine.Run
import SchemaDdl.Proofs.NearestSettings

namespace SchemaDdl

namespace Settings

def limit (s : Settings) : LimitKey → Value
  | .fileSize => s.maxFileSize
  | .lineLength => s.maxLineLength

variable {limit : Toml.Limit} {env : String → Option String} {t : FileTree} {s : Settings} {cs : List Candidate}
  {entries : Table}
  {key : LimitKey} {v d : Value}

end Settings

namespace CommandLine

open Settings

variable {host : Host} {env : String → Option String} {t : FileTree} {i : Invocation} {schema : Path}
  {s loaded : Settings} {o : Options}

/-- Settings with those that the options of a command give in place of their own. -/
def withOptions (i : Invocation) (s : Settings) : Settings :=
  { s with
    extension := (i.extension.map Value.text).getD s.extension
    strict := (i.strict.map Value.bool).getD s.strict }

end CommandLine

end SchemaDdl

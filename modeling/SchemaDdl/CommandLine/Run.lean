import SchemaDdl.CommandLine.Arguments
import SchemaDdl.Log
import SchemaDdl.SchemaFile.Conversion
import SchemaDdl.Settings.Environment
import SchemaDdl.Settings.Search
import SchemaDdl.Text.ControlSequence

namespace SchemaDdl.CommandLine

inductive UsageFault where
  | word (f : WordFault)
  | missingSchema
  | schemaIsDirectory (text : String)
  | schemaIsLocked (text : String)
  | directoryIsFile (text : String)
  | extraArguments (words : List String)
  | settings (message : String)
  deriving DecidableEq, Repr

def UsageFault.message : UsageFault → String
  | .word (.noSuchOption option) => s!"No such option: {option}"
  | .word (.needsArgument option) => s!"Option {Text.quoted option} requires an argument."
  | .word (.takesNoValue option) => s!"Option {Text.quoted option} does not take a value."
  | .missingSchema => "Missing argument 'FILEPATH'."
  | .schemaIsDirectory text => s!"Invalid value for 'FILEPATH': File {Text.quoted text} is a directory."
  | .schemaIsLocked text => s!"Invalid value for 'FILEPATH': File {Text.quoted text} is not readable."
  | .directoryIsFile text => s!"Invalid value for '[OUTPUT_DIR]': Directory {Text.quoted text} is a file."
  | .extraArguments words =>
    let plural := if words.length = 1 then "" else "s"
    let listed := " ".intercalate words
    s!"Got unexpected extra argument{plural} ({listed})"
  | .settings message => s!"Invalid value: {message}"

/-- Faults in the form of an option are shown without the usage. -/
def UsageFault.showsUsage : UsageFault → Bool
  | .word (.needsArgument _) => false
  | .word (.takesNoValue _) => false
  | _ => true

/-- Faults that the command does not answer for. -/
inductive Escape where
  | nullCharacter
  | tooDeep
  | noHome
  | search (f : Settings.SearchFault)
  | key (f : Settings.KeyFault)
  deriving DecidableEq, Repr

def Escape.message : Escape → String
  | .nullCharacter => AccessFault.message .nullCharacter
  | .tooDeep => FileFault.message .tooDeep
  | .noHome => "Could not determine home directory."
  | .search f => f.message
  | .key f => f.message

inductive Failure where
  | usage (f : UsageFault)
  | refused (message : String)
  | escaped (e : Escape)
  deriving DecidableEq, Repr

inductive Success where
  | version
  | help
  | wrote (path : Path) (draft : Draft)
  deriving DecidableEq, Repr

structure Report where
  tree : FileTree
  events : Array Event := #[]
  verbose : Bool := false
  result : Except Failure Success

structure Host where
  env : String → Option String
  /-- The home directory of the user (`none`) or of another one, as far as the system knows it. -/
  home? : Option String → Option String
  /-- How far up missing directories are followed. -/
  depth : Nat
  /-- Where the reader of settings files runs out of room. -/
  limit : Toml.Limit

/-- A conversion with its options and arguments, those that are not given left out. -/
structure Invocation where
  schema : String
  directory : Option String := none
  name : Option String := none
  strict : Option Bool := none
  extension : Option String := none
  verbose : Bool := false
  deriving DecidableEq, Repr

inductive Command where
  | version
  | help
  | convert (i : Invocation)
  deriving DecidableEq, Repr

/-- Why a path that is there does not do as an argument. A path that is not there is fine. -/
def refuseIf (t : FileTree) (fault? : Entry → Option UsageFault) (text : String) : Except Failure Unit :=
  match t.stat text with
  | .ok e =>
    match fault? e with
    | some f => .error (.usage f)
    | none => .ok ()
  | .error (.system _) => .ok ()
  | .error .nullCharacter => .error (.escaped .nullCharacter)

def schemaFault? (text : String) : Entry → Option UsageFault
  | .directory => some (.schemaIsDirectory text)
  | .locked _ => some (.schemaIsLocked text)
  | .file _ => none

def directoryFault? (text : String) : Entry → Option UsageFault
  | .directory => none
  | _ => some (.directoryIsFile text)

def Words.invocation (w : Words) (t : FileTree) : Except Failure Invocation := do
  let i (schema : String) (directory name : Option String) : Invocation :=
    { schema, directory, name, strict := w.strict, extension := w.extension, verbose := w.verbose }
  match w.arguments with
  | [] => .error (.usage .missingSchema)
  | schema :: rest =>
    refuseIf t (schemaFault? schema) schema
    match rest with
    | [] => return i schema none none
    | directory :: rest =>
      refuseIf t (directoryFault? directory) directory
      match rest with
      | [] => return i schema (some directory) none
      | [name] => return i schema (some directory) (some name)
      | _ :: extra => .error (.usage (.extraArguments extra))

def readWords (t : FileTree) (words : List String) : Except Failure Command :=
  match Words.read {} none words with
  | .error f => .error (.usage (.word f))
  | .ok w =>
    if w.help then .ok .help
    else if w.version then .ok .version
    else (w.invocation t).map .convert

/-- The home that a tilde with a name behind it stands for. The environment says where one's own is, or else the
system. -/
def Host.homeOf (h : Host) (name : List Char) : Option String :=
  if name = [] then (h.env "HOME").or (h.home? none) else h.home? (some (String.ofList name))

def expandHome (h : Host) (p : Path) : Except Failure Path :=
  match p.anchor, p.parts with
  | .relative, first :: rest =>
    match first.toList with
    | '~' :: name =>
      match h.homeOf name with
      | some home =>
        let home := String.ofList (Text.dropTail (· = '/') home.toList)
        if home.toList.head? = some '~' then .error (.escaped .noHome)
        else .ok ((Path.ofString (if home = "" then "/" else home)).join { parts := rest })
      | none => .error (.escaped .noHome)
    | _ => .ok p
  | _, _ => .ok p

/-- A fault in the settings is one of usage, unless their search itself broke down. -/
def buildFailure : Settings.BuildFault → Failure
  | .search (.invalidTable table file _) => .usage (.settings (Settings.tableMessage table file))
  | .search f => .escaped (.search f)
  | .key f => .escaped (.key f)
  | .invalid f => .usage (.settings f.message)

def Invocation.overrides (i : Invocation) : List (String × Value) :=
  [("strict_types", (i.strict.map Value.bool).getD .absent),
   ("output_extension", (i.extension.map Value.text).getD .absent)]

def searchPath (t : FileTree) (schema : Path) : Path := FileTree.locationPath (t.resolve schema).dropLast

def withLimits (env : String → Option String) (s : Settings) : Except Failure Settings := do
  let limit (key : Settings.LimitKey) (default : Value) : Except Failure Value :=
    (Settings.limitFrom env key default).mapError fun f ↦ .refused f.message
  let fileSize ← limit .fileSize s.maxFileSize
  let lineLength ← limit .lineLength s.maxLineLength
  (s.override [("max_file_size", fileSize), ("max_line_length", lineLength)]).mapError fun f ↦ .escaped (.key f)

/-- The settings of a command: those found for the schema, the options over them, and the limits of the environment
over both. They must pass the check before the environment is looked at. -/
def settings (h : Host) (t : FileTree) (i : Invocation) (schema : Path) : Except Failure Settings := do
  let (s, _) ← (Settings.build h.limit t (searchPath t schema) i.overrides).mapError buildFailure
  withLimits h.env s

def conversionFailure : ConversionFault → Failure
  | .file .nullCharacter => .escaped .nullCharacter
  | .file .tooDeep => .escaped .tooDeep
  | f => .refused f.message

def prepare (h : Host) (t : FileTree) (i : Invocation) : Except Failure (Settings × Request) := do
  let schema ← expandHome h (Path.ofString i.schema)
  let s ← settings h t i schema
  let directory := i.directory.bind fun d ↦ if d = "" then none else some (Path.ofString d)
  return (s, { schema, directory, name := i.name })

def convert (h : Host) (t : FileTree) (i : Invocation) : Report :=
  match prepare h t i with
  | .error f => { tree := t, verbose := i.verbose, result := .error f }
  | .ok (s, request) =>
    let c := Conversion.run h.depth s t request
    let result := match c.result with
      | .ok (path, draft) => .ok (.wrote path draft)
      | .error f => .error (conversionFailure f)
    { tree := c.tree, events := c.events, verbose := i.verbose, result }

def runWith (read : FileTree → List String → Except Failure Command) (h : Host) (t : FileTree) (words : List String) :
    Report :=
  match read t words with
  | .error f => { tree := t, result := .error f }
  | .ok .help => { tree := t, result := .ok .help }
  | .ok .version => { tree := t, result := .ok .version }
  | .ok (.convert i) => convert h t i

def run (h : Host) (t : FileTree) (words : List String) : Report := runWith readWords h t words

def usageText : String := "Usage: thrift-sql [OPTIONS] FILEPATH [OUTPUT_DIR] [OUTPUT_NAME]\n"

namespace Report

def exitCode (r : Report) : Nat :=
  match r.result with
  | .ok _ => 0
  | .error (.usage _) => 2
  | .error _ => 1

def stdout (page : String) (r : Report) : String :=
  match r.result with
  | .ok .version => "thrift-sql, version 0.1.0\n"
  | .ok .help => page
  | .ok (.wrote path _) => Text.plain (path.text ++ "\n")
  | .error _ => ""

/-- Events go to this text if the command is verbose, and stand before its message. -/
def logged (r : Report) : String :=
  if r.verbose then ({ level := Level.debug.rank, format? := some Log.defaultFormat } : Log).text r.events else ""

def complaint (r : Report) : String :=
  match r.result with
  | .ok (.wrote _ draft) => draft.findings.foldl (fun s f ↦ s ++ "Warning: " ++ f.message ++ "\n") ""
  | .ok _ => ""
  | .error (.usage f) =>
    (if f.showsUsage then usageText ++ "Try 'thrift-sql --help' for help.\n\n" else "") ++
      "Error: " ++ f.message ++ "\n"
  | .error (.refused message) => "Error: " ++ message ++ "\n"
  | .error (.escaped _) => ""

def stderr (r : Report) : String := r.logged ++ Text.plain r.complaint

end Report

end SchemaDdl.CommandLine

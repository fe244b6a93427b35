import SchemaDdl.SchemaFile
import SchemaDdl.Script
import SchemaDdl.Settings

namespace SchemaDdl

inductive ConversionFault where
  | settings (f : Settings.Fault)
  | file (f : FileFault)
  | undecodable (path : Path) (f : Text.Utf8.Fault)
  | schema (path : Path) (f : Fault)
  deriving DecidableEq, Repr

def ConversionFault.message : ConversionFault → String
  | .settings f => f.message
  | .file f => f.message
  | .undecodable path f => s!"Invalid UTF-8 sequence in {path.text}: {f.message}"
  | .schema path f => s!"{path.text}: {f.message}"

/-- Whether a conversion reports a fault as its own. The others pass through it as they are. -/
def ConversionFault.isReported : ConversionFault → Bool
  | .file .nullCharacter => false
  | .file .tooDeep => false
  | _ => true

structure Request where
  schema : Path
  directory : Option Path := none
  name : Option String := none
  deriving DecidableEq, Repr

def Request.output (r : Request) (extension : String) : Path := r.schema.output r.directory r.name extension

structure Conversion where
  tree : FileTree
  events : Array Event := #[]
  result : Except ConversionFault (Path × Draft)

namespace Conversion

def writeScript (depth : Nat) (o : Options) (t : FileTree) (r : Request) (supply : Text.LineSupply)
    (events : Array Event) : Conversion :=
  let path := r.output o.extension
  let events := events.push (.outputChosen path.text)
  match SchemaFile.create depth t path with
  | (t, .error f) => ⟨t, events, .error (.file f)⟩
  | (t, .ok ()) =>
    let outcome := Script.ofSupply o supply
    let draft := outcome.progress.draft
    let t := SchemaFile.fill t path (scriptText draft.script)
    let events := events ++ outcome.progress.events
    match outcome.stop? with
    | some (.fault f) => ⟨t, events, .error (.schema r.schema f)⟩
    | some (.undecodable f) => ⟨t, events, .error (.undecodable r.schema f)⟩
    | none => ⟨t, events.push (.wrote draft.tables.size draft.lookups.size path.text), .ok (path, draft)⟩

/-- The input is measured and opened before the output is touched. -/
def withOptions (depth : Nat) (o : Options) (t : FileTree) (r : Request) : Conversion :=
  let events := #[.starting r.schema.text]
  let opened := do
    let _ ← SchemaFile.boundedSize t r.schema o.maxFileSize
    SchemaFile.lines t r.schema
  match opened with
  | .error f => ⟨t, events, .error (.file f)⟩
  | .ok supply => writeScript depth o t r supply events

def run (depth : Nat) (s : Settings) (t : FileTree) (r : Request) : Conversion :=
  match s.check with
  | .error f => ⟨t, #[], .error (.settings f)⟩
  | .ok o => withOptions depth o t r

end Conversion

end SchemaDdl

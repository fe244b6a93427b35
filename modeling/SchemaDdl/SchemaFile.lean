import SchemaDdl.FileTree
import SchemaDdl.Text.LineSupply

namespace SchemaDdl

inductive SinkCause where
  | system (f : SystemFault)
  | directory
  deriving DecidableEq, Repr

inductive FileFault where
  | inaccessible (path : Path) (f : SystemFault)
  | notRegular (path : Path)
  | tooLarge (path : Path) (limit : Int)
  | uncreatable (path : Path) (cause : SinkCause)
  /-- The system's own refusal, passed on as it is. -/
  | system (f : SystemFault)
  | nullCharacter
  | tooDeep
  deriving DecidableEq, Repr

def SinkCause.message (path : Path) : SinkCause → String
  | .system f => f.message
  | .directory => s!"{path.text} is a directory"

def FileFault.message : FileFault → String
  | .inaccessible path f => s!"Error accessing {path.text}: {f.message}"
  | .notRegular path => s!"{path.text} is not a regular file."
  | .tooLarge path limit => s!"{path.text} exceeds the maximum allowed size of {limit} bytes."
  | .uncreatable path cause => s!"Failed to create {path.text}: {cause.message path}"
  | .system f => f.message
  | .nullCharacter => AccessFault.message .nullCharacter
  | .tooDeep => "maximum recursion depth exceeded while calling a Python object"

namespace SchemaFile

def size (t : FileTree) (path : Path) : Except FileFault Nat :=
  match t.stat path.text with
  | .ok (.file bytes) => .ok bytes.length
  | .ok (.locked size) => .ok size
  | .ok .directory => .error (.notRegular path)
  | .error (.system f) => .error (.inaccessible path f)
  | .error .nullCharacter => .error .nullCharacter

def boundedSize (t : FileTree) (path : Path) (limit : Int) : Except FileFault Nat := do
  let n ← size t path
  if limit < n then .error (.tooLarge path limit) else return n

/-- The lines of a file. A name that is too long is refused in the system's own words. -/
def lines (t : FileTree) (path : Path) : Except FileFault Text.LineSupply :=
  match t.readFile path.text with
  | .ok bytes => .ok (.ofBytes bytes)
  | .error (.system f) => .error (if f.errno = .nameTooLong then .system f else .inaccessible path f)
  | .error .nullCharacter => .error .nullCharacter

def sinkFault (path : Path) : AccessFault → FileFault
  | .system f => .uncreatable path (.system f)
  | .nullCharacter => .nullCharacter

/-- Makes an empty output file in place of any file of its name, with the directories above it as far as `depth` allows.
The tree is that left behind, also if there is a fault. -/
def create (depth : Nat) (t : FileTree) (path : Path) : FileTree × Except FileFault Unit :=
  let fail (t : FileTree) (e : AccessFault) : FileTree × Except FileFault Unit := (t, .error (sinkFault path e))
  match t.isDirectory path.text with
  | .error e => fail t e
  | .ok true => (t, .error (.uncreatable path .directory))
  | .ok false =>
    match t.removeIfPresent path.text with
    | .error e => fail t e
    | .ok t =>
      match FileTree.ensureDirectories depth t path.parent with
      | (t, .error .tooDeep) => (t, .error .tooDeep)
      | (t, .error (.access e)) => fail t e
      | (t, .ok ()) =>
        match t.writeFile path.text [] with
        | .ok t => (t, .ok ())
        | .error e => fail t e

def fill (t : FileTree) (path : Path) (text : String) : FileTree :=
  match t.writeFile path.text (Text.Utf8.encode text.toList) with
  | .ok t => t
  | .error _ => t

def write (depth : Nat) (t : FileTree) (path : Path) (text : String) : FileTree × Except FileFault Unit :=
  match create depth t path with
  | (t, .ok ()) => (fill t path text, .ok ())
  | failed => failed

end SchemaFile

end SchemaDdl

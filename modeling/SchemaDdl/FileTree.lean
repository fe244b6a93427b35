import SchemaDdl.Path
import SchemaDdl.Text.Quoted

namespace SchemaDdl

inductive Errno where
  | notFound | permission | exists | notDirectory | isDirectory | nameTooLong
  deriving DecidableEq, Repr

def Errno.code : Errno → Nat
  | .notFound => 2
  | .permission => 13
  | .exists => 17
  | .notDirectory => 20
  | .isDirectory => 21
  | .nameTooLong => 36

def Errno.text : Errno → String
  | .notFound => "No such file or directory"
  | .permission => "Permission denied"
  | .exists => "File exists"
  | .notDirectory => "Not a directory"
  | .isDirectory => "Is a directory"
  | .nameTooLong => "File name too long"

structure SystemFault where
  errno : Errno
  path : String
  deriving DecidableEq, Repr

def SystemFault.message (f : SystemFault) : String :=
  s!"[Errno {f.errno.code}] {f.errno.text}: {Text.quoted f.path}"

inductive AccessFault where
  | system (f : SystemFault)
  | nullCharacter
  deriving DecidableEq, Repr

def AccessFault.message : AccessFault → String
  | .system f => f.message
  | .nullCharacter => "embedded null byte"

abbrev Location := List String

inductive Entry where
  | directory
  | file (bytes : List UInt8)
  /-- A file that cannot be opened, of which only the size is known. -/
  | locked (size : Nat)
  deriving DecidableEq, Repr

structure FileTree where
  /-- Everything but the root. -/
  entries : List (Location × Entry)
  current : Location
  deriving DecidableEq, Repr

namespace FileTree

def find? (t : FileTree) (loc : Location) : Option Entry :=
  if loc = [] then some .directory else t.entries.lookup loc

def put (t : FileTree) (loc : Location) (e : Entry) : FileTree :=
  { t with entries := (loc, e) :: t.entries.filter (·.1 ≠ loc) }

def erase (t : FileTree) (loc : Location) : FileTree :=
  { t with entries := t.entries.filter (·.1 ≠ loc) }

def maxName : Nat := 255

def maxPath : Nat := 4095

/-- Follows components through directories. The last one need not exist. -/
def walk (t : FileTree) : Location → List String → Except Errno Location
  | loc, [] => .ok loc
  | loc, c :: cs =>
    match t.find? loc with
    | none => .error .notFound
    | some .directory =>
      if c = "." then t.walk loc cs
      else if c = ".." then t.walk loc.dropLast cs
      else if maxName < c.utf8ByteSize then .error .nameTooLong
      else t.walk (loc ++ [c]) cs
    | some _ => .error .notDirectory

/-- The components that the system sees in a path. A single dot, and a slash at the end, ask for a directory. -/
def steps (path : String) : List String :=
  let cs := path.toList
  ((Text.pieces '/' cs).map String.ofList).filter (· ≠ "") ++ if cs.getLast? = some '/' then ["."] else []

def locate (t : FileTree) (path : String) : Except AccessFault Location :=
  let start := if path.toList.head? = some '/' then [] else t.current
  if '\x00' ∈ path.toList then .error .nullCharacter
  else if path = "" then .error (.system ⟨.notFound, path⟩)
  else if maxPath < path.utf8ByteSize then .error (.system ⟨.nameTooLong, path⟩)
  else
    match t.walk start (steps path) with
    | .ok loc => .ok loc
    | .error e => .error (.system ⟨e, path⟩)

def refuse {α : Type} (errno : Errno) (path : String) : Except AccessFault α := .error (.system ⟨errno, path⟩)

def stat (t : FileTree) (path : String) : Except AccessFault Entry := do
  match t.find? (← t.locate path) with
  | some e => .ok e
  | none => refuse .notFound path

def readFile (t : FileTree) (path : String) : Except AccessFault (List UInt8) := do
  match ← t.stat path with
  | .file bytes => .ok bytes
  | .directory => refuse .isDirectory path
  | .locked _ => refuse .permission path

def removeFile (t : FileTree) (path : String) : Except AccessFault FileTree := do
  let loc ← t.locate path
  match t.find? loc with
  | none => refuse .notFound path
  | some .directory => refuse .isDirectory path
  | some _ => .ok (t.erase loc)

def removeIfPresent (t : FileTree) (path : String) : Except AccessFault FileTree :=
  match t.removeFile path with
  | .ok t => .ok t
  | .error (.system f) => if f.errno = .notFound then .ok t else .error (.system f)
  | .error .nullCharacter => .error .nullCharacter

def makeDirectory (t : FileTree) (path : String) : Except AccessFault FileTree := do
  let loc ← t.locate path
  match t.find? loc with
  | none => .ok (t.put loc .directory)
  | some _ => refuse .exists path

def writeFile (t : FileTree) (path : String) (bytes : List UInt8) : Except AccessFault FileTree := do
  let loc ← t.locate path
  match t.find? loc with
  | some .directory => refuse .isDirectory path
  | some (.locked _) => refuse .permission path
  | _ => .ok (t.put loc (.file bytes))

/-- A test of a path that is false where nothing can be: a missing or impossible path is no fault, but a name that is
too long is one. -/
def test (t : FileTree) (p : Entry → Bool) (path : String) : Except AccessFault Bool :=
  match t.stat path with
  | .ok e => .ok (p e)
  | .error .nullCharacter => .ok false
  | .error (.system f) =>
    match f.errno with
    | .notFound => .ok false
    | .notDirectory => .ok false
    | _ => .error (.system f)

def isDirectory (t : FileTree) (path : String) : Except AccessFault Bool := t.test (· = .directory) path

def exists? (t : FileTree) (path : String) : Except AccessFault Bool := t.test (fun _ ↦ true) path

def ensureDirectory (t : FileTree) (path : String) : Except AccessFault FileTree :=
  match t.makeDirectory path with
  | .ok t => .ok t
  | .error .nullCharacter => .error .nullCharacter
  | .error (.system f) =>
    if f.errno = .notFound then .error (.system f)
    else
      match t.isDirectory path with
      | .ok true => .ok t
      | .ok false => .error (.system f)
      | .error e => .error e

inductive DirectoryFault where
  | access (f : AccessFault)
  | tooDeep
  deriving DecidableEq, Repr

/-- Makes a directory and those above it that are missing. Of the directories above it, `depth` can be tried. The tree is
that after the last directory made, also if there is a fault. -/
def ensureDirectories (depth : Nat) (t : FileTree) (p : Path) : FileTree × Except DirectoryFault Unit :=
  match t.ensureDirectory p.text with
  | .ok t => (t, .ok ())
  | .error (.system ⟨.notFound, path⟩) =>
    if p.parent = p then (t, .error (.access (.system ⟨.notFound, path⟩)))
    else
      match depth with
      | 0 => (t, .error .tooDeep)
      | depth + 1 =>
        match ensureDirectories depth t p.parent with
        | (t, .error e) => (t, .error e)
        | (t, .ok ()) =>
          match t.ensureDirectory p.text with
          | .ok t => (t, .ok ())
          | .error e => (t, .error (.access e))
  | .error e => (t, .error (.access e))

/-- The location that a path names by its text alone: each double dot takes back the component before it. -/
def resolve (t : FileTree) (p : Path) : Location :=
  let start := if p.anchor = .relative then t.current else []
  p.parts.foldl (fun loc c ↦ if c = ".." then loc.dropLast else loc ++ [c]) start

def locationPath (loc : Location) : Path := { anchor := .root, parts := loc }

end FileTree

end SchemaDdl

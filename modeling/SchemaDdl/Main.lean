import SchemaDdl.CommandLine.Footprint

namespace SchemaDdl.Disk

open CommandLine

def pathText (loc : Location) : String := "/" ++ "/".intercalate loc

/-- Stands for the bytes of a file that has not been read; no script has these bytes. -/
def unread : List UInt8 := [0]

def probe (loc : Location) : IO (Option Entry) := do
  let path := (← IO.currentDir) / pathText loc
  if loc.any (fun name ↦ name.toList.contains '\x00') then return none
  else if ← path.isDir then return some .directory
  else if ← path.pathExists then return some (.file unread)
  else return none

def add (t : FileTree) (loc : Location) : IO FileTree := do
  match ← probe loc with
  | some e => return if (t.find? loc).isSome then t else t.put loc e
  | none => return t

def addWay (t : FileTree) (loc : Location) : IO FileTree := (onTheWay loc).foldlM add t

def addRead (t : FileTree) (loc : Location) : IO FileTree := do
  match ← probe loc with
  | some (.file _) =>
    try return t.put loc (.file (← IO.FS.readBinFile (pathText loc)).toList)
    catch _ => return t.put loc (.locked (← ((← IO.currentDir) / pathText loc).metadata).byteSize.toNat)
  | _ => return t

def addListed (t : FileTree) (loc : Location) : IO FileTree := do
  match ← probe loc with
  | some .directory =>
    let names := (← ((← IO.currentDir) / pathText loc).readDir).map (·.fileName)
    names.foldlM (fun t name ↦ add t (loc ++ [name])) t
  | _ => return t

def snapshot (current : Location) (f : Footprint) : IO FileTree := do
  let t ← (current :: f.read ++ f.listed).foldlM addWay { entries := [], current }
  let t ← f.listed.foldlM addListed t
  f.read.foldlM addRead t

def apply : Change → IO Unit
  | .removed loc => IO.FS.removeFile (pathText loc)
  | .put loc .directory => IO.FS.createDir (pathText loc)
  | .put loc (.file bytes) => IO.FS.writeBinFile (pathText loc) ⟨bytes.toArray⟩
  | .put _ (.locked _) => return ()

def linesOf (path : String) : IO (List String) := do
  try return (← IO.FS.lines path).toList
  catch _ => return []

def homes : IO (Option String → Option String) := do
  let accounts := (← linesOf "/etc/passwd").map (·.splitOn ":")
  let self? := (← linesOf "/proc/self/status").findSome? fun line ↦
    match line.splitOn "\t" with
    | "Uid:" :: number :: _ => some number
    | _ => none
  return fun name? ↦ accounts.findSome? fun account ↦
    match account with
    | [name, _, number, _, _, home, _] =>
      if name? = some name ∨ name? = none ∧ self? = some number then some home else none
    | _ => none

end SchemaDdl.Disk

open SchemaDdl in
def main (words : List String) : IO UInt32 := do
  let current := (Path.ofString (← IO.currentDir).toString).parts
  let names := ["HOME", Settings.LimitKey.fileSize.variable, Settings.LimitKey.lineLength.variable]
  let assigned ← names.mapM fun name ↦ return (name, ← IO.getEnv name)
  let host : CommandLine.Host :=
    { env := fun name ↦ (assigned.lookup name).join
      home? := ← Disk.homes
      depth := 980
      limit := .ofRoom 980 }
  let before ← Disk.snapshot current (CommandLine.footprint host current words)
  let report := CommandLine.run host before words
  for change in CommandLine.changes before report.tree do
    Disk.apply change
  IO.print (report.stdout CommandLine.usageText)
  IO.eprint report.stderr
  if let .error (.escaped e) := report.result then
    IO.eprintln e.message
  return UInt32.ofNat report.exitCode

import ChartRender.CommandLine.Program
/-!
# The program on a disk

Reads what a request is about from the disk into a file system value, runs the program on it, and
puts what has changed back. Nothing is decided here. There are no permissions in a file system value,
so entries that may not be read count as missing, and are not reported as unreadable; symbolic links
inside a directory of templates are passed over.

Key definitions: `Disk.read`, `Disk.store`, `main`.
-/

namespace ChartRender.Disk

open CommandLine

/-- The entry of the disk at a location. -/
def entry (l : Location) : IO.FS.DirEntry := ⟨"/", l.text⟩

/-- Everything below an entry of the disk. -/
partial def readTree (e : IO.FS.DirEntry) : IO FileTree := do
  if ← e.path.isDir then
    let mut entries := []
    for child in ← e.path.readDir do
      match (← child.path.symlinkMetadata).type with
      | .dir | .file =>
        try entries := (child.fileName, ← readTree child) :: entries
        catch _ => pure ()
      | _ => pure ()
    return .directory entries
  else return .file (← IO.FS.readBinFile e.path)

/-- The locations that a path leads through, the last one first. -/
def trail (fs : FileSystem) (path : String) : List Location :=
  let p := PathParts.ofText path
  let start := if p.absolute then [] else fs.working
  (start ++ p.moves).foldl (fun ls name =>
    let l := ls.headD []
    (if name = ".." then l.dropLast else l ++ [name]) :: ls) []

/-- Adds what a path leads through to a file system. -/
def readPath (fs : FileSystem) (path : String) : IO FileSystem :=
  (trail fs path).reverse.foldlM (fun fs l => do
    if (fs.root.get? l).isSome then return fs
    else
      try
        if ← (entry l).path.isDir then return fs.put l (.directory [])
        else return fs.put l (.file (← IO.FS.readBinFile (entry l).path))
      catch _ => return fs) fs

/-- Adds what a path leads through and all below it. -/
def readBelow (fs : FileSystem) (path : String) : IO FileSystem := do
  let fs ← readPath fs path
  match trail fs path with
  | [] => return fs
  | l :: _ =>
    if (fs.root.get? l).any FileTree.isDirectory then return fs.put l (← readTree (entry l))
    else return fs

/-- The working directory with nothing in it. -/
def empty : IO FileSystem := do
  let working := (PathParts.ofText (← IO.currentDir).toString).steps
  return ⟨working.foldr (fun name t => .directory [(name, t)]) (.directory []), working⟩

/-- The part of the disk that a request is about. -/
def read (r : Request) : IO FileSystem := do
  let fs ← empty
  match r.action with
  | .render o =>
    let fs ← readBelow fs o.template
    ((r.config.getD Config.fileName) :: o.valuesFiles ++ o.output.toList).foldlM readPath fs
  | _ => return fs

/-- Puts back what a command has changed at a path and on the way to it. -/
def store (old new : FileSystem) (path : String) : IO Unit := do
  for l in (trail old path).reverse do
    match old.root.get? l, new.root.get? l with
    | none, some (.directory _) => IO.FS.createDir (entry l).path
    | some (.file before), some (.file after) =>
      if before.data != after.data then IO.FS.writeBinFile (entry l).path after
    | none, some (.file bytes) => IO.FS.writeBinFile (entry l).path bytes
    | _, _ => pure ()

/-- Runs the program on the disk. -/
def run (args : List String) : IO UInt32 := do
  match Request.ofArguments args with
  | .error _ =>
    let outcome := runProgram args (← empty)
    IO.print outcome.session.output
    IO.eprint outcome.session.messages
    return outcome.status.toUInt32
  | .ok request =>
    let fs ← read request
    let outcome := runProgram args fs
    if let .render { output := some path, .. } := request.action then
      store fs outcome.session.files path
    IO.print outcome.session.output
    IO.eprint outcome.session.messages
    return outcome.status.toUInt32

end ChartRender.Disk

def main (args : List String) : IO UInt32 := ChartRender.Disk.run args

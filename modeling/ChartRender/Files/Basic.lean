import ChartRender.Text.Basic
/-!
# Files

A file system as a value: a tree of directories and files, and the working directory that relative
paths start from. Paths are texts; each name on the way but the last must be that of a directory.

The files of a tree are found by a walk that visits a directory's entries in order of their names and
finishes each directory before the next entry, so that the files come in order of their locations.

There are no permissions: whatever is in the tree can be read and written, and a file or directory
that the program may not read is not modelled.

Key definitions: `FileTree`, `FileSystem`, `FileError`, `FileSystem.resolve`, `FileSystem.readText`,
`FileTree.files`, `Location.text`.
-/

namespace ChartRender

/-- A file with its bytes, or a directory with its entries. -/
inductive FileTree where
  | file (bytes : ByteArray)
  | directory (entries : List (String × FileTree))
  deriving Inhabited

/-- Why a file cannot be read or written. -/
inductive FileError where
  | notFound
  | alreadyExists
  | notDirectory
  | isDirectory
  | notText
  deriving DecidableEq, Repr

/-- What went wrong. -/
def FileError.message : FileError → String
  | .notFound => "No such file or directory (os error 2)"
  | .alreadyExists => "File exists (os error 17)"
  | .notDirectory => "Not a directory (os error 20)"
  | .isDirectory => "Is a directory (os error 21)"
  | .notText => "stream did not contain valid UTF-8"

/-- The names that lead from the root of a tree to a place in it. -/
abbrev Location := List String

namespace FileTree

def isDirectory : FileTree → Bool
  | .directory _ => true
  | .file _ => false

/-- What is at a location. -/
def get? : FileTree → Location → Option FileTree
  | t, [] => some t
  | .directory entries, name :: rest => (entries.lookup name).bind fun t => get? t rest
  | .file _, _ :: _ => none

/-- The entries with a tree under a name, in place of what was there, or at the end. -/
def putEntry (entries : List (String × FileTree)) (name : String) (t : FileTree) :
    List (String × FileTree) :=
  match entries with
  | [] => [(name, t)]
  | (n, old) :: rest => if n = name then (n, t) :: rest else (n, old) :: putEntry rest name t

/-- Puts a tree at a location, if all names but the last lead to directories. -/
def put (t : FileTree) (new : FileTree) : Location → FileTree
  | [] => new
  | name :: rest =>
    match t with
    | .file bytes => .file bytes
    | .directory entries =>
      match rest with
      | [] => .directory (putEntry entries name new)
      | _ :: _ =>
        match entries.lookup name with
        | none => .directory entries
        | some inner => .directory (putEntry entries name (put inner new rest))

/-- The text that a file holds. -/
def text : FileTree → Except FileError String
  | .directory _ => .error .isDirectory
  | .file bytes =>
    match String.fromUTF8? bytes with
    | some s => .ok s
    | none => .error .notText

end FileTree

/-- A tree and the location of the working directory in it. -/
structure FileSystem where
  root : FileTree
  working : Location

/-- The parts of a path. A path that ends in a slash names a directory. -/
structure PathParts where
  absolute : Bool
  steps : List String
  slashed : Bool
  deriving DecidableEq, Repr

namespace PathParts

/-- The texts between the slashes of a path. -/
def pieces (current : List Char) : List Char → List String
  | [] => [String.ofList current.reverse]
  | c :: cs =>
    if c = '/' then String.ofList current.reverse :: pieces [] cs else pieces (c :: current) cs

/-- The parts of a path. -/
def ofText (path : String) : PathParts :=
  let steps := (pieces [] path.toList).filter (· != "")
  ⟨path.toList.head? == some '/', steps, path.toList.getLast? == some '/'⟩

/-- The steps that lead anywhere, which excludes those that stay where they are. -/
def moves (p : PathParts) : List String := p.steps.filter (· != ".")

/-- The name of the file or directory that a path names, if it ends in a name. -/
def name? (p : PathParts) : Option String := p.moves.getLast?.filter (· != "..")

end PathParts

namespace FileSystem

/-- One step from a location: it stays, goes up, or enters what is there under a name. -/
def step (fs : FileSystem) (l : Location) (name : String) : Except FileError Location :=
  match fs.root.get? l with
  | none => .error .notFound
  | some (.file _) => .error .notDirectory
  | some (.directory entries) =>
    if name = "." then .ok l
    else if name = ".." then .ok l.dropLast
    else if (entries.lookup name).isSome then .ok (l ++ [name])
    else .error .notFound

/-- Where a path starts. -/
def start (fs : FileSystem) (p : PathParts) : Location := if p.absolute then [] else fs.working

/-- Where steps lead to. -/
def follow (fs : FileSystem) (l : Location) (steps : List String) : Except FileError Location :=
  steps.foldlM fs.step l

/-- The location that a path names. -/
def resolve (fs : FileSystem) (path : String) : Except FileError Location :=
  let p := PathParts.ofText path
  if path = "" then .error .notFound
  else fs.follow (fs.start p) (if p.slashed then p.steps ++ ["."] else p.steps)

/-- What a path names. -/
def find (fs : FileSystem) (path : String) : Except FileError FileTree := do
  let l ← fs.resolve path
  match fs.root.get? l with
  | some t => .ok t
  | none => .error .notFound

def contains (fs : FileSystem) (path : String) : Bool := (fs.find path).toOption.isSome

def isDirectory (fs : FileSystem) (path : String) : Bool :=
  (fs.find path).toOption.any FileTree.isDirectory

/-- The text of the file that a path names. -/
def readText (fs : FileSystem) (path : String) : Except FileError String := do
  let t ← fs.find path
  t.text

end FileSystem

/-! ### Walking a tree -/

/-- The names of a location with slashes between them. -/
def Location.text (l : Location) : String := Text.join "/" l

/-- A file found in a tree: the names that lead to it, and the file itself. -/
abbrev FoundFile := Location × FileTree

/-- Puts an entry where the order of names wants it. -/
def insertByName (entry : String × α) : List (String × α) → List (String × α)
  | [] => [entry]
  | e :: rest => if e.1 < entry.1 then e :: insertByName entry rest else entry :: e :: rest

/-- Entries in order of their names. -/
def sortedByName (entries : List (String × α)) : List (String × α) := entries.foldr insertByName []

namespace FileTree

mutual

/-- The files of a tree. -/
def files : FileTree → List FoundFile
  | .file bytes => [([], .file bytes)]
  | .directory entries =>
    (sortedByName (filesOfEntries entries)).flatMap fun (name, found) =>
      found.map fun (l, t) => (name :: l, t)

/-- The files of each entry of a directory. -/
def filesOfEntries : List (String × FileTree) → List (String × List FoundFile)
  | [] => []
  | (name, t) :: rest => (name, files t) :: filesOfEntries rest

end

end FileTree

end ChartRender

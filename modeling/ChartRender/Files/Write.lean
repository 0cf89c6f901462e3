import ChartRender.Files.Basic
/-!
# Writing files

Changes of a file system: making directories and writing texts. A change that fails half way leaves
what it has done.

Key definitions: `FileSystem.makeDirectory`, `FileSystem.makeDirectories`, `FileSystem.writeText`.
-/

namespace ChartRender

namespace FileSystem

/-- Puts a tree at a location. -/
def put (fs : FileSystem) (l : Location) (t : FileTree) : FileSystem :=
  { fs with root := fs.root.put t l }

/-- Whether there is a directory at a location. -/
def hasDirectory (fs : FileSystem) (l : Location) : Bool :=
  (fs.root.get? l).any FileTree.isDirectory

/-- Makes the directory that steps lead to, all but the last of which must exist. -/
def makeDirectory (fs : FileSystem) (l : Location) (steps : List String) :
    Except FileError FileSystem :=
  match steps.getLast? with
  | none => .error .alreadyExists
  | some name => do
    let parent ← fs.follow l steps.dropLast
    match fs.step parent name with
    | .ok _ => .error .alreadyExists
    | .error .notFound =>
      if fs.hasDirectory parent then .ok (fs.put (parent ++ [name]) (.directory []))
      else .error .notFound
    | .error e => .error e

/-- Whether steps lead to a directory. -/
def leadsToDirectory (fs : FileSystem) (l : Location) (steps : List String) : Bool :=
  match fs.follow l steps with
  | .ok l => fs.hasDirectory l
  | .error _ => false

/-- A directory that could not be made is no harm if it is there already. -/
def orExisting (fs : FileSystem) (l : Location) (steps : List String) (e : FileError) :
    FileSystem × Except FileError Unit :=
  (fs, if fs.leadsToDirectory l steps then .ok () else .error e)

/-- Makes the directory that steps, given in reverse, lead to, and those on the way to it. -/
def makeDirectoriesFrom (fs : FileSystem) (l : Location) :
    List String → FileSystem × Except FileError Unit
  | [] => (fs, .ok ())
  | name :: rest =>
    let steps := (name :: rest).reverse
    match fs.makeDirectory l steps with
    | .ok fs => (fs, .ok ())
    | .error .notFound =>
      match makeDirectoriesFrom fs l rest with
      | (fs, .error e) => (fs, .error e)
      | (fs, .ok ()) =>
        match fs.makeDirectory l steps with
        | .ok fs => (fs, .ok ())
        | .error e => fs.orExisting l steps e
    | .error e => fs.orExisting l steps e

/-- Makes the directory in which a path lies, and those on the way to it. -/
def makeDirectories (fs : FileSystem) (path : String) : FileSystem × Except FileError Unit :=
  let p := PathParts.ofText path
  fs.makeDirectoriesFrom (fs.start p) p.moves.dropLast.reverse

/-- Where a text is written under a path. -/
def target (fs : FileSystem) (path : String) : Except FileError Location :=
  let p := PathParts.ofText path
  match p.steps.getLast? with
  | none => .error (if path = "" then .notFound else .isDirectory)
  | some name => do
    let parent ← fs.follow (fs.start p) p.steps.dropLast
    match fs.step parent name with
    | .error .notFound =>
      if !fs.hasDirectory parent then .error .notFound
      else if p.slashed then .error .isDirectory
      else .ok (parent ++ [name])
    | .error e => .error e
    | .ok l =>
      match fs.root.get? l with
      | some (.file _) => if p.slashed then .error .notDirectory else .ok l
      | _ => .error .isDirectory

/-- Writes a text under a path, in place of what the file held. -/
def writeText (fs : FileSystem) (path text : String) : Except FileError FileSystem := do
  let l ← fs.target path
  .ok (fs.put l (.file text.toUTF8))

end FileSystem

end ChartRender

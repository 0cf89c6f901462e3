import ChartRender.Files.Basic
import ChartRender.Yaml.Reader
/-!
# Configuration

How templates are rendered: the name of the object that holds the builtins, whether what is not
defined is a fault, and which files of a directory are templates. A configuration is read from a
YAML document whose fields are all optional; fields without a meaning here are passed over.

Key definitions: `Config`, `Config.ofText`, `Config.validate`, `Config.load`, `Config.discover`.
-/

namespace ChartRender

/-- How templates are rendered. -/
structure Config where
  builtinsName : String
  strict : Bool
  extensions : List String
  deriving DecidableEq, Repr

/-- Why there is no configuration. -/
inductive ConfigError where
  | invalidName (name : String)
  | unreadable (e : FileError)
  | malformed
  deriving DecidableEq, Repr

/-- What went wrong. -/
def ConfigError.message : ConfigError → String
  | .invalidName name => "Configuration error: invalid shim namespace '" ++ name ++ "'"
  | .unreadable e => "IO error: " ++ e.message
  | .malformed => "YAML error: the text is not a configuration"

namespace Config

/-- The configuration that holds where nothing else is said. -/
def standard : Config := ⟨"_shims", true, [".yaml", ".yml", ".tpl", ".j2", ".txt"]⟩

/-! ### Validity -/

def isNameStart (c : Char) : Bool := c == '_' || c.isAlpha

def isNameChar (c : Char) : Bool := c == '_' || c.isAlphanum

/-- Whether a text is an ASCII letter or underscore followed by letters, digits and underscores. -/
def isName (s : String) : Bool :=
  match s.toList with
  | [] => false
  | c :: cs => isNameStart c && cs.all isNameChar

/-- Refuses a name of the builtins that templates cannot write. -/
def validate (c : Config) : Except ConfigError Unit :=
  if isName c.builtinsName then .ok () else .error (.invalidName c.builtinsName)

/-- Whether a file name ends in one of the extensions. -/
def isTemplate (c : Config) (fileName : String) : Bool :=
  c.extensions.any fun e => e.toList.isSuffixOf fileName.toList

/-! ### Reading -/

/-- The text of a scalar, whatever it looks like. -/
def text? : Yaml → Option String
  | .scalar _ _ text => some text
  | _ => none

/-- The truth value that a plain scalar spells. -/
def bool? : Yaml → Option Bool
  | .scalar _ true text => Yaml.bool? text
  | _ => none

/-- The texts of a sequence of scalars. -/
def texts? : Yaml → Option (List String)
  | .sequence _ items => items.mapM text?
  | _ => none

/-- The names of the fields, in order. -/
def fieldNames : List String := ["namespace", "strict", "templateExtensions"]

/-- Sets the field with a name. -/
def setField (c : Config) (field : String) (y : Yaml) : Option Config :=
  if field = "namespace" then (text? y).map fun name => { c with builtinsName := name }
  else if field = "strict" then (bool? y).map fun strict => { c with strict := strict }
  else if field = "templateExtensions" then (texts? y).map fun es => { c with extensions := es }
  else some c

/-- Sets fields one after the other. No field may be set twice, those without a meaning apart. -/
def setFields (c : Config) (seen : List String) : List (Yaml × Yaml) → Option Config
  | [] => some c
  | (k, y) :: rest =>
    match text? k with
    | none => none
    | some field =>
      if field ∈ fieldNames ∧ field ∈ seen then none
      else
        match c.setField field y with
        | none => none
        | some c => setFields c (field :: seen) rest

/-- The configuration that a document spells: a mapping with some of the fields, or the first of the
fields in a sequence. -/
def ofYaml? : Yaml → Option Config
  | .mapping _ entries => standard.setFields [] entries
  | .sequence _ items =>
    if fieldNames.length < items.length then none
    else (fieldNames.zip items).foldlM (fun c p => c.setField p.1 p.2) standard
  | .scalar .. => none

/-- The configuration that a text spells. A text without a document spells the standard one. -/
def ofText? (text : String) : Option Config :=
  match (Yaml.tokens? text).bind Yaml.document? with
  | some none => some standard
  | some (some y) => ofYaml? y
  | none => none

/-- The valid configuration that a text spells. -/
def ofText (text : String) : Except ConfigError Config :=
  match ofText? text with
  | none => .error .malformed
  | some c => do
    c.validate
    return c

/-- The configuration in the file that a path names. -/
def load (fs : FileSystem) (path : String) : Except ConfigError Config :=
  match fs.readText path with
  | .error e => .error (.unreadable e)
  | .ok text => ofText text

/-- The name of the file that a configuration is looked for in. -/
def fileName : String := "helmshim.yaml"

/-- The configuration in the working directory, or the standard one if there is none. -/
def discover (fs : FileSystem) : Except ConfigError Config :=
  if fs.contains fileName then load fs fileName else .ok standard

end Config

end ChartRender

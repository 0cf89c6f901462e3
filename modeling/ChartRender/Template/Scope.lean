import ChartRender.Template.Basic
import ChartRender.Template.Datum
/-!
# Scopes

The names that are known at a place of a running template. Frames lie upon one another; a name is
looked up from the innermost frame outwards, in each frame first among the names assigned there and
then in the closure that the frame was opened upon. A closure holds the names that the routines of a
frame take from around their definition. It belongs to the frame from the first such routine on, and
every later assignment in the frame reaches it too, so routines see their own name and later ones.

Key definitions: `Frame`, `Routine`, `Scope`, `Scope.lookup?`, `Scope.assign`, `Scope.enclose`.
-/

namespace ChartRender.Template

/-- Names and what they stand for, the latest first. -/
abbrev Bindings := List (String × Datum)

/-- A frame: the names assigned in it, the closure it was opened upon, and the closure of the
routines defined in it, both by their numbers. -/
structure Frame where
  locals : Bindings
  base : Option Nat
  closure : Option Nat
  deriving Repr, Inhabited

/-- A routine: its parameters, its statements, the template it belongs to, and its closure. -/
structure Routine where
  params : List String
  body : List Stmt
  template : String
  closure : Option Nat
  deriving Repr, Inhabited

/-- What a running template knows: its frames, the innermost first; all closures and routines made
so far; and how deep the routines and includes are that have led here. -/
structure Scope where
  frames : List Frame
  closures : List Bindings
  routines : List Routine
  depth : Nat
  deriving Repr, Inhabited

namespace Scope

/-- The scope of a template that starts with some names. -/
def start (names : Bindings) : Scope := ⟨[⟨names, none, none⟩], [], [], 0⟩

/-- What a closure holds under a name. -/
def enclosed? (s : Scope) (closure : Option Nat) (name : String) : Option Datum :=
  closure.bind fun i => s.closures[i]?.bind fun names => names.lookup name

/-- What a frame holds under a name. -/
def inFrame? (s : Scope) (frame : Frame) (name : String) : Option Datum :=
  (frame.locals.lookup name).or (s.enclosed? frame.base name)

/-- What a name stands for. -/
def lookup? (s : Scope) (name : String) : Option Datum :=
  s.frames.findSome? fun f => s.inFrame? f name

/-- All names that are known, the innermost first, with what they stand for. -/
def known (s : Scope) : Bindings :=
  s.frames.flatMap fun f => f.locals ++ (f.base.bind fun i => s.closures[i]?).getD []

/-- Puts a name into a closure. -/
def intoClosure (closures : List Bindings) (closure : Option Nat) (name : String) (d : Datum) :
    List Bindings :=
  match closure with
  | some i => closures.modify i ((name, d) :: ·)
  | none => closures

/-- Assigns a name in the innermost frame. -/
def assign (s : Scope) (name : String) (d : Datum) : Scope :=
  match s.frames with
  | [] => s
  | f :: rest =>
    { s with
      frames := { f with locals := (name, d) :: f.locals } :: rest
      closures := intoClosure s.closures f.closure name d }

/-- Opens a frame. -/
def push (s : Scope) : Scope := { s with frames := ⟨[], none, none⟩ :: s.frames }

/-- Closes the innermost frame. -/
def pop (s : Scope) : Scope := { s with frames := s.frames.tail }

/-- The closure of the innermost frame. -/
def closure (s : Scope) : Option Nat := s.frames.head?.bind (·.closure)

/-- Gives the innermost frame another closure. -/
def withClosure (s : Scope) (closure : Option Nat) : Scope :=
  match s.frames with
  | [] => s
  | f :: rest => { s with frames := { f with closure := closure } :: rest }

/-- Gives the innermost frame a closure if it has none. -/
def openClosure (s : Scope) : Scope :=
  match s.closure with
  | some _ => s
  | none => { s with closures := s.closures ++ [[]] }.withClosure (some s.closures.length)

/-- Puts a name into the closure of the innermost frame, unless it is there, with what it stands for
now. -/
def encloseName (outside : String → Option Datum) (s : Scope) (name : String) : Scope :=
  let s := s.openClosure
  match s.enclosed? s.closure name with
  | some _ => s
  | none =>
    let d := ((s.lookup? name).or (outside name)).getD .undefined
    { s with closures := intoClosure s.closures s.closure name d }

/-- Puts names into the closure of the innermost frame; `outside` knows the names that no frame
does. -/
def enclose (outside : String → Option Datum) (s : Scope) (names : List String) : Scope :=
  names.foldl (encloseName outside) s

/-- Defines a routine and assigns its name. -/
def define (outside : String → Option Datum) (s : Scope) (template name : String)
    (params : List String) (body : List Stmt) (free : List String) : Scope :=
  let s := s.enclose outside free
  let index := s.routines.length
  let routine : Routine := ⟨params, body, template, s.closure⟩
  let s := { s with routines := s.routines ++ [routine] }
  s.assign name (.routine name index)

end Scope

end ChartRender.Template

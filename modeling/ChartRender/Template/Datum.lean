import ChartRender.Binary64.Basic
/-!
# Data of templates

What the expressions of a template stand for. Beside the values of configuration data there are a
mark for what is not defined, integers of their own, maps with keys of any kind, and things that are
called. A text may be marked as safe, which keeps it from being escaped on output. The entries of a
map are sorted by key (`Datum.order`), each key once.

Key definitions: `Datum`, `Datum.isTrue`, `Datum.order`, `Entries.put`, `Datum.equals`,
`Datum.attr?`, `Datum.item?`, `Datum.elements?`.
-/

namespace ChartRender.Template

/-- What an expression stands for. The function `debug` knows the names of all templates of its
engine; a routine is known by its name and its number among all routines defined so far. -/
inductive Datum where
  | undefined
  | null
  | bool (b : Bool)
  | int (i : Int)
  | float (x : Binary64)
  | string (safe : Bool) (s : String)
  | list (items : List Datum)
  | map (entries : List (Datum × Datum))
  | builtins
  | range
  | debug (templates : List String)
  | routine (name : String) (index : Nat)
  deriving Inhabited, Repr

/-- The entries of a map. -/
abbrev Entries := List (Datum × Datum)

namespace Datum

/-- A text like any other. -/
def ofText (s : String) : Datum := .string false s

/-- The name of the kind of a datum. -/
def kindName : Datum → String
  | .undefined => "undefined"
  | .null => "none"
  | .bool _ => "bool"
  | .int _ | .float _ => "number"
  | .string .. => "string"
  | .list _ => "sequence"
  | .map _ => "map"
  | .builtins | .range | .debug _ | .routine .. => "plain object"

def isUndefined : Datum → Bool
  | .undefined => true
  | _ => false

def isNull : Datum → Bool
  | .null => true
  | _ => false

def isInteger : Datum → Bool
  | .int _ => true
  | _ => false

/-- Whether a condition holds that comes out as the datum. -/
def isTrue : Datum → Bool
  | .undefined | .null => false
  | .bool b => b
  | .int i => i != 0
  | .float x => !(x == .zero)
  | .string _ s => s != ""
  | .list items => !items.isEmpty
  | .map entries => !entries.isEmpty
  | _ => true

/-! ### Order -/

/-- The place of a datum's kind in the order of kinds. -/
def kindRank : Datum → Nat
  | .undefined => 0
  | .null => 1
  | .bool _ => 2
  | .int _ | .float _ => 3
  | .string .. => 4
  | .list _ => 5
  | .map _ => 6
  | .builtins | .range | .debug _ | .routine .. => 7

/-- The place of a floating-point number in the order of all of them: negative zero before zero, and
not-a-number last. -/
def floatRank : Binary64 → Int
  | .nan => Binary64.topRank + 1
  | .signed s r => if s then -(r.val : Int) - 1 else r.val

mutual

/-- The order of keys: by kind, and within a kind numbers by size, texts by characters, and
collections element by element. -/
def order : Datum → Datum → Ordering
  | .bool a, .bool b => compare a.toNat b.toNat
  | .int i, .int j => compare i j
  | .int i, .float y => compare (floatRank (.ofInt i)) (floatRank y)
  | .float x, .int j => compare (floatRank x) (floatRank (.ofInt j))
  | .float x, .float y => compare (floatRank x) (floatRank y)
  | .string _ s, .string _ t => compare s t
  | .list xs, .list ys => orderAll xs ys
  | .map es, .map fs => orderEntries es fs
  | a, b => compare (kindRank a) (kindRank b)

/-- The order of lists. -/
def orderAll : List Datum → List Datum → Ordering
  | [], [] => .eq
  | [], _ :: _ => .lt
  | _ :: _, [] => .gt
  | x :: xs, y :: ys => (order x y).then (orderAll xs ys)

/-- The order of maps, by keys and values in turn. -/
def orderEntries : List (Datum × Datum) → List (Datum × Datum) → Ordering
  | [], [] => .eq
  | [], _ :: _ => .lt
  | _ :: _, [] => .gt
  | (k, x) :: es, (l, y) :: fs => ((order k l).then (order x y)).then (orderEntries es fs)

end

end Datum

namespace Entries

/-- The value under a key. -/
def get? : Entries → Datum → Option Datum
  | [], _ => none
  | (k, v) :: rest, key => if k.order key = .eq then some v else get? rest key

/-- Puts a value under a key, in place of the old value or where the order of keys wants it. -/
def put (entries : Entries) (key value : Datum) : Entries :=
  match entries with
  | [] => [(key, value)]
  | (k, v) :: rest =>
    match key.order k with
    | .eq => (k, value) :: rest
    | .lt => (key, value) :: (k, v) :: rest
    | .gt => (k, v) :: put rest key value

/-- The entries that arise by putting pairs one after the other. -/
def ofPairs (pairs : List (Datum × Datum)) : Entries :=
  pairs.foldl (fun entries p => put entries p.1 p.2) []

end Entries

namespace Datum

/-! ### Numbers -/

/-- Whether calculations cover an integer. -/
def isComputable (i : Int) : Bool := Width.isSigned 128 i

/-- The integer that a datum counts as, a truth value being zero or one. The floating-point number
next above the integers of 64 bits counts as the greatest of them. -/
def integer? : Datum → Option Int
  | .bool b => some b.toNat
  | .int i => if isComputable i then some i else none
  | .float x =>
    if x.isIntegral && Width.isSigned 64 x.truncate then some x.truncate
    else if x == .ofInt 0x8000000000000000 then some 0x7FFFFFFFFFFFFFFF
    else none
  | _ => none

/-- The floating-point number nearest to what a datum counts as. -/
def float? : Datum → Option Binary64
  | .bool b => some (.ofInt b.toNat)
  | .int i => some (.ofInt i)
  | .float x => some x
  | _ => none

/-- The floating-point number that a datum is without any loss. -/
def exactFloat? : Datum → Option Binary64
  | .int i => if (Binary64.ofInt i).truncate = i then some (.ofInt i) else none
  | d => d.float?

/-! ### Equality -/

/-- Equality of an integer or a truth value with a datum. -/
def equalsNumber (a b : Datum) : Bool :=
  match b with
  | .float y => a.exactFloat?.any (· == y)
  | .bool _ | .int _ =>
    match a.integer?, b.integer? with
    | some i, some j => i == j
    | _, _ => false
  | _ => false

mutual

/-- Equality: a truth value counts as zero or one, and an integer and a floating-point number are
equal only if the integer is exactly that number. -/
def equals : Datum → Datum → Bool
  | .undefined, .undefined => true
  | .null, .null => true
  | .string _ s, .string _ t => s == t
  | .float x, d =>
    match d.exactFloat? with
    | some y => x == y
    | none => false
  | .list xs, .list ys => equalsAll xs ys
  | .map es, .map fs => es.length == fs.length && equalsEntries es fs
  | .builtins, .builtins => true
  | .range, .range => true
  | .debug _, .debug _ => true
  | .routine _ i, .routine _ j => i == j
  | .bool b, d => equalsNumber (.bool b) d
  | .int i, d => equalsNumber (.int i) d
  | _, _ => false

/-- Equality of lists. -/
def equalsAll : List Datum → List Datum → Bool
  | [], [] => true
  | x :: xs, y :: ys => equals x y && equalsAll xs ys
  | _, _ => false

/-- Whether each entry's key is found in other entries with an equal value. -/
def equalsEntries : List (Datum × Datum) → Entries → Bool
  | [], _ => true
  | (k, v) :: rest, fs =>
    (match Entries.get? fs k with
      | some w => equals v w
      | none => false) && equalsEntries rest fs

end

instance : BEq Datum := ⟨equals⟩

/-! ### Parts -/

/-- The place that an index means in a sequence of some length; a negative index counts from the
end. -/
def position? (length : Nat) (key : Datum) : Option Nat :=
  match key.integer? with
  | some i =>
    if 0 ≤ i then some i.toNat
    else if i.natAbs ≤ length then some (length - i.natAbs)
    else none
  | none => none

/-- The attribute with a name: the value under that key. -/
def attr? (d : Datum) (name : String) : Option Datum :=
  match d with
  | .map entries => Entries.get? entries (ofText name)
  | _ => none

/-- The item under a key or an index. -/
def item? (d key : Datum) : Option Datum :=
  match d with
  | .map entries => Entries.get? entries key
  | .list items => (position? items.length key).bind fun i => items[i]?
  | .string _ s => (position? s.toList.length key).bind fun i =>
    s.toList[i]?.map fun c => ofText (String.ofList [c])
  | _ => none

/-- The elements of a datum, one after the other: items, keys, or characters. -/
def elements? : Datum → Option (List Datum)
  | .undefined | .null => some []
  | .string _ s => some (s.toList.map fun c => ofText (String.ofList [c]))
  | .list items => some items
  | .map entries => some (entries.map (·.1))
  | _ => none

end Datum

end ChartRender.Template

import ChartRender.Yaml.Basic
import ChartRender.Yaml.Token
/-!
# Reading YAML

Builds the node of a document from its tokens. Each function takes the anchors known so far and the
tokens that are left, and gives back both. An alias stands for the node under the anchor of its
name; what has no text of its own (a missing value, a bare tag) is an empty scalar. A text must hold
one document at most.

Key definitions: `Yaml.node?`, `Yaml.document?`, `Yaml.parse?`.
-/

namespace ChartRender.Yaml

/-- The nodes under their anchors, the latest first. -/
abbrev Anchors := List (String × Yaml)

/-- A result with the anchors known after it and the tokens left. -/
abbrev Parsed (α : Type) := α × Anchors × List Token

/-- The anchor and the tag in front of a node, in either order. -/
def properties : List Token → Option String × Option String × List Token
  | .anchor a :: .tag t :: ts => (some a, some t, ts)
  | .tag t :: .anchor a :: ts => (some a, some t, ts)
  | .anchor a :: ts => (some a, none, ts)
  | .tag t :: ts => (none, some t, ts)
  | ts => (none, none, ts)

/-- Puts a node under its anchor. -/
def bindAnchor (anchor : Option String) (y : Yaml) (anchors : Anchors) : Anchors :=
  match anchor with
  | some a => (a, y) :: anchors
  | none => anchors

/-- The tag of a scalar; the one without a name says nothing. -/
def scalarTag (tag : Option String) : Option String := tag.filter (· != "!")

/-- Whether an entry of a block sequence or mapping is empty before a token. -/
def endsBlockValue : Token → Bool
  | .key | .value | .blockEnd => true
  | _ => false

/-- Whether a key or a value inside a flow sequence or mapping is empty before a token. -/
def endsFlowValue (close : Token) (t : Token) : Bool := t == .flowEntry || t == close

mutual

/-- A node. `block` says whether it may be a block collection, `bare` whether it may be a block
sequence without an indentation of its own. -/
def node? : Nat → (block bare : Bool) → Anchors → List Token → Option (Parsed Yaml)
  | 0, _, _, _, _ => none
  | fuel + 1, block, bare, anchors, ts =>
    match ts with
    | .alias name :: rest => (anchors.lookup name).map fun y => (y, anchors, rest)
    | _ =>
      let (anchor, tag, ts) := properties ts
      let result : Option (Parsed Yaml) := match ts with
        | .scalar plain text :: rest => some (.scalar (scalarTag tag) plain text, anchors, rest)
        | .flowSequenceStart :: rest =>
          (flowItems? fuel true anchors rest).map fun (ys, r) => (.sequence tag ys, r)
        | .flowMappingStart :: rest =>
          (flowEntries? fuel true anchors rest).map fun (es, r) => (.mapping tag es, r)
        | t :: rest =>
          if bare && t == .blockEntry then
            (bareItems? fuel anchors (t :: rest)).map fun (ys, r) => (.sequence tag ys, r)
          else if block && t == .blockSequenceStart then
            (blockItems? fuel anchors rest).map fun (ys, r) => (.sequence tag ys, r)
          else if block && t == .blockMappingStart then
            (blockEntries? fuel anchors rest).map fun (es, r) => (.mapping tag es, r)
          else if anchor.isSome || tag.isSome then
            some (.scalar (scalarTag tag) true "", anchors, t :: rest)
          else none
        | [] =>
          if anchor.isSome || tag.isSome then some (.scalar (scalarTag tag) true "", anchors, [])
          else none
      result.map fun (y, anchors, ts) => (y, bindAnchor anchor y anchors, ts)

/-- The items of a block sequence up to the end of its indentation. -/
def blockItems? : Nat → Anchors → List Token → Option (Parsed (List Yaml))
  | 0, _, _ => none
  | fuel + 1, anchors, ts =>
    match ts with
    | .blockEnd :: rest => some ([], anchors, rest)
    | .blockEntry :: rest => do
      let empty := rest.head?.any fun t => t == .blockEntry || t == .blockEnd
      let (y, anchors, rest) ←
        if empty then some (nothing, anchors, rest) else node? fuel true false anchors rest
      let (ys, r) ← blockItems? fuel anchors rest
      return (y :: ys, r)
    | _ => none

/-- The items of a block sequence that is not indented. -/
def bareItems? : Nat → Anchors → List Token → Option (Parsed (List Yaml))
  | 0, _, _ => none
  | fuel + 1, anchors, ts =>
    match ts with
    | .blockEntry :: rest => do
      let empty := rest.head?.any fun t => t == .blockEntry || endsBlockValue t
      let (y, anchors, rest) ←
        if empty then some (nothing, anchors, rest) else node? fuel true false anchors rest
      let (ys, r) ← bareItems? fuel anchors rest
      return (y :: ys, r)
    | ts => some ([], anchors, ts)

/-- The entries of a block mapping up to the end of its indentation. -/
def blockEntries? : Nat → Anchors → List Token → Option (Parsed (List (Yaml × Yaml)))
  | 0, _, _ => none
  | fuel + 1, anchors, ts =>
    match ts with
    | .blockEnd :: rest => some ([], anchors, rest)
    | .key :: rest => do
      let (k, anchors, rest) ←
        if rest.head?.any endsBlockValue then some (nothing, anchors, rest)
        else node? fuel true true anchors rest
      let (y, anchors, rest) ← blockValue? fuel anchors rest
      let (es, r) ← blockEntries? fuel anchors rest
      return ((k, y) :: es, r)
    | _ => none

/-- The value behind a key of a block mapping. -/
def blockValue? : Nat → Anchors → List Token → Option (Parsed Yaml)
  | 0, _, _ => none
  | fuel + 1, anchors, ts =>
    match ts with
    | .value :: rest =>
      if rest.head?.any endsBlockValue then some (nothing, anchors, rest)
      else node? fuel true true anchors rest
    | ts => some (nothing, anchors, ts)

/-- The items of a flow sequence up to its closing bracket. A key among them makes a mapping of one
entry. -/
def flowItems? : Nat → (first : Bool) → Anchors → List Token → Option (Parsed (List Yaml))
  | 0, _, _, _ => none
  | fuel + 1, first, anchors, ts =>
    match ts with
    | .flowSequenceEnd :: rest => some ([], anchors, rest)
    | ts => do
      let ts ← if first then some ts else match ts with
        | .flowEntry :: rest => some rest
        | _ => none
      match ts with
      | .flowSequenceEnd :: rest => return ([], anchors, rest)
      | .key :: rest =>
        let (k, anchors, rest) ←
          if rest.head?.any fun t => t == .value || endsFlowValue .flowSequenceEnd t then
            some (nothing, anchors, rest)
          else node? fuel false false anchors rest
        let (y, anchors, rest) ← flowValue? fuel .flowSequenceEnd anchors rest
        let (ys, r) ← flowItems? fuel false anchors rest
        return (.mapping none [(k, y)] :: ys, r)
      | ts =>
        let (y, anchors, rest) ← node? fuel false false anchors ts
        let (ys, r) ← flowItems? fuel false anchors rest
        return (y :: ys, r)

/-- The entries of a flow mapping up to its closing brace. An item without a colon is a key without
a value. -/
def flowEntries? : Nat → (first : Bool) → Anchors → List Token →
    Option (Parsed (List (Yaml × Yaml)))
  | 0, _, _, _ => none
  | fuel + 1, first, anchors, ts =>
    match ts with
    | .flowMappingEnd :: rest => some ([], anchors, rest)
    | ts => do
      let ts ← if first then some ts else match ts with
        | .flowEntry :: rest => some rest
        | _ => none
      match ts with
      | .flowMappingEnd :: rest => return ([], anchors, rest)
      | .key :: rest =>
        let (k, anchors, rest) ←
          if rest.head?.any fun t => t == .value || endsFlowValue .flowMappingEnd t then
            some (nothing, anchors, rest)
          else node? fuel false false anchors rest
        let (y, anchors, rest) ← flowValue? fuel .flowMappingEnd anchors rest
        let (es, r) ← flowEntries? fuel false anchors rest
        return ((k, y) :: es, r)
      | ts =>
        let (k, anchors, rest) ← node? fuel false false anchors ts
        let (es, r) ← flowEntries? fuel false anchors rest
        return ((k, nothing) :: es, r)

/-- The value behind a key inside a flow collection. -/
def flowValue? : Nat → (close : Token) → Anchors → List Token → Option (Parsed Yaml)
  | 0, _, _, _ => none
  | fuel + 1, close, anchors, ts =>
    match ts with
    | .value :: rest =>
      if rest.head?.any (endsFlowValue close) then some (nothing, anchors, rest)
      else node? fuel false false anchors rest
    | ts => some (nothing, anchors, ts)

end

/-- The document that tokens spell; `none` inside if there is none at all. -/
def document? (ts : List Token) : Option (Option Yaml) :=
  let fuel := 2 * ts.length + 2
  match ts with
  | [] => some none
  | .documentStart :: rest => do
    let (y, _, rest) ← match rest with
      | [] => some (nothing, [], [])
      | .documentStart :: _ => none
      | .documentEnd :: _ => some (nothing, [], rest)
      | rest => node? fuel true false [] rest
    if rest.all (· == .documentEnd) then return some y else none
  | ts => do
    let (y, _, rest) ← node? fuel true false [] ts
    if rest.all (· == .documentEnd) then return some y else none

/-- Reads a text as one document. -/
def parse? (text : String) : Option Yaml :=
  ((tokens? text).bind document?).map (·.getD nothing)

end ChartRender.Yaml

import Stencil.Yaml.Token.Scan

/-!
# YAML nodes

A document is a tree of scalars, sequences and mappings, in which a node may be named and be
referred to by its name. The tree is read off the tokens by descent.
-/

namespace Stencil.Yaml

inductive Node where
  | scalar (text : String) (style : Style) (tag : Option String)
  | sequence (tag : Option String) (items : List Node)
  | mapping (tag : Option String) (entries : List (Node × Node))
  /-- The node that has been given a number. -/
  | reference (number : Nat)
  deriving Inhabited, Repr

/-- A node with a number. Of several nodes with one number the one that began last counts. -/
structure Numbered where
  number : Nat
  start : Nat
  node : Node
  deriving Inhabited, Repr

/-- A document: its root, and the nodes that are referred to by their numbers. -/
structure Document where
  root : Node
  numbered : List Numbered
  deriving Inhabited, Repr

mutual

/-- The number of nodes in a node, in which collections count twice. -/
def Node.size : Node → Nat
  | .scalar .. | .reference _ => 1
  | .sequence _ items => 2 + itemsSize items
  | .mapping _ entries => 2 + entriesSize entries

def itemsSize : List Node → Nat
  | [] => 0
  | n :: ns => n.size + itemsSize ns

def entriesSize : List (Node × Node) → Nat
  | [] => 0
  | (k, v) :: es => k.size + v.size + entriesSize es

end

def Document.allowance (d : Document) : Nat :=
  100 * d.root.size

def Document.find? (d : Document) (number : Nat) : Option Node :=
  let best := d.numbered.foldl (fun best n =>
    if n.number ≠ number then best
    else
      match best with
      | some b => if b.start < n.start then some n else some b
      | none => some n) (none : Option Numbered)
  best.map (·.node)

/-- What reading a document keeps: the tokens that are left, the meanings of tag handles, the
numbers of anchors, and the nodes that have numbers. -/
structure Progress where
  tokens : List Token
  handles : List (String × String) := []
  anchors : List (String × Nat) := []
  starts : Nat := 0
  numbered : List Numbered := []

abbrev Reader := StateT Progress Option

namespace Reader

def peek : Reader (Option Token) := do
  return (← get).tokens.head?

def skip : Reader Unit :=
  modify fun r => { r with tokens := r.tokens.drop 1 }

def accept (t : Token) : Reader Bool := do
  if (← peek) = some t then
    skip
    return true
  else return false

def expect (t : Token) : Reader Unit := do
  unless ← accept t do failure

/-- Gives an anchor a number: the count of the names of anchors before it. -/
def numberAnchor (name : String) : Reader (Nat × Nat) := do
  let r ← get
  let number := r.anchors.length
  let anchors := (name, number) :: r.anchors.filter (·.1 != name)
  set { r with anchors, starts := r.starts + 1 }
  return (number, r.starts)

def properties : Reader (Option String × Option Tag) := do
  match ← peek with
  | some (.anchor a) =>
    skip
    match ← peek with
    | some (.tag t) =>
      skip
      return (some a, some t)
    | _ => return (some a, none)
  | some (.tag t) =>
    skip
    match ← peek with
    | some (.anchor a) =>
      skip
      return (some a, some t)
    | _ => return (none, some t)
  | _ => return (none, none)

def resolveTag (t : Tag) : Reader String := do
  if t.handle = "" then return t.suffix
  match (← get).handles.lookup t.handle with
  | some meaning => return meaning ++ t.suffix
  | none => failure

def emptyNode : Node :=
  .scalar "" .plain none

def atAny (ts : List Token) : Reader Bool := do
  return match ← peek with
    | some t => ts.contains t
    | none => false

mutual

/-- A node; `block` tells whether block collections may begin, and `bare` whether a block sequence
may have the indentation of the mapping around it. `steps` bounds the depth of the descent. -/
def node (block bare : Bool) : (steps : Nat) → Reader Node
  | 0 => failure
  | steps + 1 => do
    match ← peek with
    | some (.alias name) =>
      skip
      match (← get).anchors.lookup name with
      | some number => return .reference number
      | none => failure
    | _ =>
      let (anchor, tag) ← properties
      let tag ← match tag with
        | some t => some <$> resolveTag t
        | none => pure none
      let number ← match anchor with
        | some name => some <$> numberAnchor name
        | none => pure none
      let n ← content block bare tag (anchor.isSome || tag.isSome) steps
      match number with
      | some (number, start) =>
        modify fun r => { r with numbered := { number, start, node := n } :: r.numbered }
      | none => pure ()
      return n

/-- What follows the properties of a node; if there are any, nothing may follow them. -/
def content (block bare : Bool) (tag : Option String) (mayBeEmpty : Bool) :
    (steps : Nat) → Reader Node
  | 0 => failure
  | steps + 1 => do
    match ← peek with
    | some .blockEntry =>
      if bare then return .sequence tag (← bareItems steps)
      else if mayBeEmpty then return .scalar "" .plain tag
      else failure
    | some (.scalar text style) =>
      skip
      return .scalar text style (if tag = some "!" then none else tag)
    | some .flowSequenceStart =>
      skip
      return .sequence tag (← flowItems true steps)
    | some .flowMappingStart =>
      skip
      return .mapping tag (← flowEntries true steps)
    | t =>
      if block && t = some .blockSequenceStart then
        skip
        return .sequence tag (← blockItems steps)
      else if block && t = some .blockMappingStart then
        skip
        return .mapping tag (← blockEntries steps)
      else if mayBeEmpty then return .scalar "" .plain tag
      else failure

def blockItems : (steps : Nat) → Reader (List Node)
  | 0 => failure
  | steps + 1 => do
    if ← accept .blockEntry then
      let n ← if ← atAny [.blockEntry, .blockEnd] then pure emptyNode else node true false steps
      return n :: (← blockItems steps)
    else
      expect .blockEnd
      return []

/-- The items of a block sequence that is not indented further than the mapping around it. -/
def bareItems : (steps : Nat) → Reader (List Node)
  | 0 => failure
  | steps + 1 => do
    if ← accept .blockEntry then
      let n ←
        if ← atAny [.blockEntry, .key, .value, .blockEnd] then pure emptyNode
        else node true false steps
      return n :: (← bareItems steps)
    else return []

/-- A node after the sign of a key or a value, empty if one of `ends` follows. -/
def nodeUnless (block : Bool) (ends : List Token) : (steps : Nat) → Reader Node
  | 0 => failure
  | steps + 1 => do
    if ← atAny ends then return emptyNode else node block block steps

def blockEntries : (steps : Nat) → Reader (List (Node × Node))
  | 0 => failure
  | steps + 1 => do
    if ← accept .key then
      let ends := [Token.key, .value, .blockEnd]
      let k ← nodeUnless true ends steps
      let v ← if ← accept .value then nodeUnless true ends steps else pure emptyNode
      return (k, v) :: (← blockEntries steps)
    else
      expect .blockEnd
      return []

/-- The items of a flow sequence up to its end. An item may be a mapping with one entry; what
follows the sign of its key and is no key is dropped. -/
def flowItems (first : Bool) : (steps : Nat) → Reader (List Node)
  | 0 => failure
  | steps + 1 => do
    if ← accept .flowSequenceEnd then return []
    unless first do expect .flowEntry
    if ← accept .flowSequenceEnd then return []
    if ← accept .key then
      let k ←
        if ← atAny [.value, .flowEntry, .flowSequenceEnd] then
          skip
          pure emptyNode
        else node false false steps
      let v ←
        if ← accept .value then nodeUnless false [.flowEntry, .flowSequenceEnd] steps
        else pure emptyNode
      return .mapping none [(k, v)] :: (← flowItems false steps)
    else
      let n ← node false false steps
      return n :: (← flowItems false steps)

def flowEntries (first : Bool) : (steps : Nat) → Reader (List (Node × Node))
  | 0 => failure
  | steps + 1 => do
    if ← accept .flowMappingEnd then return []
    unless first do expect .flowEntry
    if ← accept .flowMappingEnd then return []
    if ← accept .key then
      let k ← nodeUnless false [.value, .flowEntry, .flowMappingEnd] steps
      let v ←
        if ← accept .value then nodeUnless false [.flowEntry, .flowMappingEnd] steps
        else pure emptyNode
      return (k, v) :: (← flowEntries false steps)
    else
      let k ← node false false steps
      return (k, emptyNode) :: (← flowEntries false steps)

end

def directives : (steps : Nat) → (versioned : Bool) → Reader Unit
  | 0, _ => failure
  | steps + 1, versioned => do
    match ← peek with
    | some (.version major minor) =>
      if versioned || major ≠ 1 || (minor ≠ 1 && minor ≠ 2) then failure
      skip
      directives steps true
    | some (.tagDirective handle meaning) =>
      if ((← get).handles.lookup handle).isSome then failure
      modify fun r => { r with handles := (handle, meaning) :: r.handles }
      skip
      directives steps versioned
    | _ =>
      modify fun r => { r with handles := r.handles ++
        [("!", "!"), ("!!", "tag:yaml.org,2002:")] }

def skipDocumentEnds : Reader Unit :=
  modify fun r => { r with tokens := r.tokens.dropWhile (· == .documentEnd) }

def document (steps : Nat) : Reader (Option Node) := do
  match ← peek with
  | none => return none
  | some first =>
    let explicit :=
      match first with
      | .version .. | .tagDirective .. | .documentStart => true
      | _ => false
    directives steps false
    if explicit then expect .documentStart
    let root ←
      match ← peek with
      | none => pure emptyNode
      | some t =>
        if explicit && (t = .documentStart || t = .documentEnd) then pure emptyNode
        else node true false steps
    skipDocumentEnds
    if (← peek).isSome then failure
    return some root

end Reader

def Document.ofTokens? (tokens : List Token) : Option (Option Document) := do
  let steps := 4 * tokens.length + 4
  let (root, r) ← (Reader.document steps).run { tokens }
  pure (root.map fun root => { root, numbered := r.numbered })

end Stencil.Yaml

import Stencil.Double.Decimal
import Stencil.Config.Readable
import Stencil.Yaml.Node

/-!
# Reading YAML nodes

A plain scalar counts as whatever is wanted: as the text it is written as where a text is wanted,
and by its look where nothing is said. An empty one also counts as an empty list or map.
-/

namespace Stencil.Yaml

def isNullWord (s : String) : Bool :=
  s == "null" || s == "Null" || s == "NULL" || s == "~"

def boolWord? (s : String) : Option Bool :=
  if s == "true" || s == "True" || s == "TRUE" then some true
  else if s == "false" || s == "False" || s == "FALSE" then some false
  else none

def isPaddedNumber (cs : List Char) : Bool :=
  let digits := match cs with
    | '-' :: ds | '+' :: ds => ds
    | ds => ds
  match digits with
  | '0' :: d :: ds => (d :: ds).all Char.isDigit
  | _ => false

def natOf? (base : Nat) (cs : List Char) : Option Nat :=
  if cs.isEmpty then none
  else
    cs.foldlM (fun n c => do
      let d ← hexDigit? c
      if d < base then some (n * base + d) else none) 0

/-- A whole number: decimal, or in base 16, 8 or 2 after `0x`, `0o` or `0b`. -/
def wholeNumber? (cs : List Char) : Option Int :=
  let unsigned : List Char → Option Nat
    | '0' :: 'x' :: ds => natOf? 16 ds
    | '0' :: 'o' :: ds => natOf? 8 ds
    | '0' :: 'b' :: ds => natOf? 2 ds
    | ds => natOf? 10 ds
  if isPaddedNumber cs then none
  else
    match cs with
    | '+' :: ds => (unsigned ds).map Int.ofNat
    | '-' :: ds => (unsigned ds).map fun n => -(n : Int)
    | ds => (unsigned ds).map Int.ofNat

def floatNumber? (cs : List Char) : Option Double :=
  let infinity := ".inf".toList
  let words (w : List Char) : Bool :=
    w == infinity || w == ".Inf".toList || w == ".INF".toList
  let unsigned := match cs with
    | '+' :: rest => rest
    | _ => cs
  if words unsigned then some (.ofFloat (1.0 / 0.0))
  else if cs == ".nan".toList || cs == ".NaN".toList || cs == ".NAN".toList then
    some (.ofFloat (0.0 / 0.0))
  else
    match cs with
    | '-' :: rest =>
      if words rest then some (.ofFloat (-1.0 / 0.0)) else (Double.ofUnsigned? true rest).filter (·.isFinite)
    | _ => (Double.ofUnsigned? false unsigned).filter (·.isFinite)

inductive Look where
  | null
  | bool (b : Bool)
  | int (n : Int)
  | float (x : Double)
  | text (s : String)

def fits64 (n : Int) : Bool :=
  -9223372036854775808 ≤ n && n ≤ 18446744073709551615

def fits128 (n : Int) : Bool :=
  -(Nat.pow 2 127 : Int) ≤ n && n < (Nat.pow 2 128 : Int)

/-- A whole number by its look; one that fits into 128 bits only is refused. -/
def intLook? (n : Int) : Option Look :=
  if fits64 n then some (.int n) else none

def plainLook? (s : String) : Option Look :=
  let cs := s.toList
  let other : Option Look :=
    if isPaddedNumber cs then some (.text s)
    else
      match floatNumber? cs with
      | some x => some (.float x)
      | none => some (.text s)
  if s == "" || isNullWord s then some .null
  else
    match boolWord? s with
    | some b => some (.bool b)
    | none =>
      match wholeNumber? cs with
      | some n => if fits128 n then intLook? n else other
      | none => other

def coreTag (name : String) : Option String :=
  some ("tag:yaml.org,2002:" ++ name)

/-- Whether a tag is not one of YAML's own; such a tag selects an alternative. -/
def isLocal (tag : Option String) : Bool :=
  match tag with
  | some t => t.startsWith "!"
  | none => false

/-- What a scalar is by its tag, or else by its look. -/
def scalarLook? (s : String) (style : Style) (tag : Option String) : Option Look :=
  if isLocal tag then none
  else if tag = coreTag "bool" then (boolWord? s).map .bool
  else if tag = coreTag "int" then (wholeNumber? s.toList).bind intLook?
  else if tag = coreTag "float" then (floatNumber? s.toList).map .float
  else if tag = coreTag "null" then if isNullWord s then some .null else none
  else if tag = none ∧ style = .plain then plainLook? s
  else some (.text s)

/-- A node of a document, under which collections may be nested up to a depth. -/
structure View where
  document : Document
  node : Node
  depth : Nat

namespace View

def resolved (v : View) : Node :=
  match v.node with
  | .reference number => (v.document.find? number).getD v.node
  | n => n

def below (v : View) (n : Node) : View :=
  { v with node := n, depth := v.depth - 1 }

def text? (v : View) : Option String :=
  match v.resolved with
  | .scalar s _ _ => some s
  | _ => none

def isEmptyPlain (v : View) : Bool :=
  match v.resolved with
  | .scalar s style _ => s == "" && style == .plain
  | _ => false

def flag? (v : View) : Option Bool :=
  match v.resolved with
  | .scalar s style tag =>
    if style = .plain ∨ (style = .literal ∧ tag = coreTag "bool") then boolWord? s else none
  | _ => none

def items? (v : View) : Option (List View) :=
  match v.resolved with
  | .sequence _ items => if v.depth = 0 then none else some (items.map v.below)
  | _ => if v.isEmptyPlain then some [] else none

def entries? (v : View) : Option (List (String × View)) :=
  match v.resolved with
  | .mapping _ entries =>
    if v.depth = 0 then none
    else entries.mapM fun (k, w) => (v.below k).text?.map fun s => (s, v.below w)
  | _ => if v.isEmptyPlain then some [] else none

/-- A plain scalar stands for nothing if it looks like it. By its tag it may have to. -/
def isNothing? (v : View) : Option Bool :=
  match v.resolved with
  | .scalar s .plain none => some (s == "" || isNullWord s)
  | .scalar s .plain (some tag) =>
    if some tag = coreTag "null" then if isNullWord s then some true else none else some false
  | _ => some false

def isReference : Node → Bool
  | .reference _ => true
  | _ => false

def references (v : View) : Nat :=
  let names :=
    match v.resolved with
    | .mapping _ entries => entries.countP (isReference ·.1)
    | _ => 0
  (if isReference v.node then 1 else 0) + names

def variant? (v : View) : Option String :=
  match v.resolved with
  | .scalar s style tag =>
    if isLocal tag then
      if style = .plain ∧ (s = "" ∨ isNullWord s) then tag.map (String.ofList <| ·.toList.drop 1)
      else none
    else some s
  | _ => none

def numberOrText? (v : View) : Option (Int ⊕ String) :=
  match v.resolved with
  | .scalar s style tag =>
    match scalarLook? s style tag with
    | some (.int n) => some (.inl n)
    | some (.text s) => some (.inr s)
    | _ => none
  | _ => none

def scalarDirective? (s : String) (style : Style) (tag : Option String) : Option Directive := do
  match ← scalarLook? s style tag with
  | .bool b => pure (.bool b)
  | .int n => pure (.ofInt n)
  | .float x => pure (.float x)
  | .text s => pure (.text s)
  | .null => none

def key? (v : View) : Option String := do
  match v.resolved with
  | .scalar s style tag =>
    match ← scalarLook? s style tag with
    | .text key => pure key
    | _ => none
  | _ => none

def directiveWithin (document : Document) : (depth : Nat) → Node → Reading Directive
  | depth, n => do
    let v : View := ⟨document, n, depth⟩
    Reading.follow v.references
    match v.resolved with
    | .scalar s style tag => Reading.orMisfit (scalarDirective? s style tag)
    | .sequence tag items =>
      match depth with
      | 0 => throw .form
      | depth + 1 =>
        if isLocal tag then throw .form
        else .list <$> items.mapM (directiveWithin document depth)
    | .mapping tag entries =>
      match depth with
      | 0 => throw .form
      | depth + 1 =>
        if isLocal tag then throw .form
        else
          let read (e : Node × Node) : Reading (String × Directive) := do
            let key ← Reading.orMisfit (key? ⟨document, e.1, depth⟩)
            pure (key, ← directiveWithin document depth e.2)
          (.map ∘ sortFields) <$> entries.mapM read
    | .reference _ => throw .form

end View

instance : Readable View where
  references := View.references
  text? := View.text?
  flag? := View.flag?
  items? := View.items?
  entries? := View.entries?
  parts? v := v.entries?.map .named
  isNothing? := View.isNothing?
  variant? := View.variant?
  numberOrText? := View.numberOrText?
  directive v := View.directiveWithin v.document v.depth v.node

def maxDepth : Nat := 128

/-- The root of the only document of a text; a blank text counts as an empty scalar. -/
def parse? (text : String) : Option View := do
  let tokens ← Token.scan? text.toList
  match ← Document.ofTokens? tokens with
  | some d => pure ⟨d, d.root, maxDepth⟩
  | none => pure ⟨⟨Reader.emptyNode, []⟩, Reader.emptyNode, maxDepth⟩

end Stencil.Yaml

import Stencil.Json.Printer
import Stencil.Statement.Path

/-!
# Values in statement templates

When a value counts as true, how it is printed, and how paths lead into it.
-/

namespace Stencil.Statement

def isTruthy : Json → Bool
  | .null => false
  | .bool b => b
  | .int n => n != 0
  | .float x => !x.isZero && !x.isNaN
  | .str s => s != ""
  | .arr items => !items.isEmpty
  | .obj fields => !fields.isEmpty

mutual

def printed : Json → List Char
  | .null => []
  | .bool b => (toString b).toList
  | .int n => (toString n).toList
  | .float x => x.positional
  | .str s => s.toList
  | .arr items => '[' :: printedItems items ++ [']']
  | .obj _ => "[object]".toList

def printedItems : List Json → List Char
  | [] => []
  | [v] => printed v
  | v :: vs => printed v ++ ", ".toList ++ printedItems vs

end

def index? (s : String) : Option Nat :=
  let cs := s.toList
  if cs.isEmpty || !cs.all Char.isDigit || (cs.head? == some '0' && cs.length != 1) then none
  else s.toNat?

/-- The value of a key of an object or at an index of an array. -/
def child? (v : Json) (key : String) : Option Json :=
  match v with
  | .obj fields => fields.lookup key
  | .arr items => (index? key).bind (items[·]?)
  | _ => none

def descend? (v : Json) (keys : List String) : Option Json :=
  keys.foldlM child? v

def at? (v : Json) (dotted : String) : Option Json :=
  descend? v (Path.keys dotted.toList)

/-- The round of a loop that is being rendered. A round over a text may have no value. -/
structure Round where
  keyName : Option String
  valueName : String
  key : String
  value : Option Json
  index : Nat
  count : Nat

structure Frame where
  bindings : List (String × Json) := []
  round : Option Round := none

structure Host where
  bindings : List (String × String) := []
  /-- The present time, as a text or as a number of seconds. -/
  now : (utc timestamp : Bool) → Json := fun _ _ => .null
  /-- A random number from the start to before the end, where there is one. -/
  random : (start stop : Int) → Int := fun start _ => start

structure Base where
  data : Json
  host : Host := {}

/-- What names stand for: the frames, the innermost first, and then the data. -/
structure Scope extends Base where
  frames : List Frame

/-- What a loop offers under a path: its key, `loop` with its counters, and its value. -/
def Round.find? (r : Round) (p : List Char) : Option Json :=
  let (root, rest) := Path.cutRoot p
  if r.keyName.map String.toList = some p then some (.str r.key)
  else if root = "loop" then
    match rest.map String.ofList with
    | some "index" => some (.int (r.index + 1))
    | some "index0" => some (.int r.index)
    | some "first" => some (.bool (r.index == 0))
    | some "last" => some (.bool (r.index + 1 == r.count))
    | _ => none
  else if root = r.valueName then
    match rest with
    | none => r.value
    | some [] => none
    | some rest => do descend? (← r.value) (Path.keys rest)
  else none

def lookupPath (bindings : List (String × Json)) (p : List Char) : Option Json :=
  let (root, rest) := Path.cutRoot p
  (bindings.lookup root).bind (descend? · (Path.keys (rest.getD [])))

def Frame.find? (f : Frame) (p : List Char) : Option Json :=
  (lookupPath f.bindings p).or (f.round.bind (·.find? p))

/-- The value of a path without brackets, in the innermost frame in which all of it leads to one. -/
def Scope.find? (s : Scope) (p : List Char) : Option Json :=
  (s.frames.findSome? (·.find? p)).or
    (match s.data with
      | .obj fields => lookupPath fields p
      | _ => none)

/-- The key that a value stands for, as it is written into a path. -/
def keyText? : Json → Option (List Char)
  | .str s => some ('"' :: s.toList ++ ['"'])
  | .int n => some (Json.int n).numberText
  | .float x => some x.notated
  | _ => none

/-- The value of a path; `depth` bounds the depth of the brackets in it. -/
def Path.valueWithin? (s : Scope) : (depth : Nat) → Path → Option Json
  | 0, _ => none
  | depth + 1, p =>
    if p.contains '[' then do
      s.find? (← Path.resolve? (fun q => (valueWithin? s depth q).bind keyText?) p)
    else s.find? p

def Frame.fields (f : Frame) : List (String × Json) :=
  let ofRound := match f.round with
    | some r =>
      (r.value.map (r.valueName, ·)).toList ++ (r.keyName.map (·, Json.str r.key)).toList
    | none => []
  f.bindings.reverse ++ ofRound

/-- All names that are known, with their values; of two frames the outer one counts. -/
def Scope.fields (s : Scope) : Json :=
  let data := match s.data with
    | .obj fields => fields
    | _ => []
  .object (data ++ s.frames.flatMap Frame.fields)

def everything : Path := "__tera_context".toList

def Path.value? (s : Scope) (p : Path) : Option Json :=
  if p = everything then some (.str (String.ofList s.fields.pretty))
  else Path.valueWithin? s (p.length + 1) p

end Stencil.Statement

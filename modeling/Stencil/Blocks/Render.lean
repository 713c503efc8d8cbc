import Stencil.Blocks.Template
import Stencil.Blocks.Value
import Stencil.Helper

/-!
# Rendering block templates

Helpers are called with values, blocks render their bodies over a value of their own. A value that
is shown has to be there; a missing argument of a helper is null.
-/

namespace Stencil.Blocks

abbrev Argument := Option Json

namespace Builtin

def required (args : List Argument) (i : Nat) : Except RenderFault Json :=
  match args[i]? with
  | some (some v) => .ok v
  | _ => .error .other

def onTwo (f : Json → Json → Bool) (args : List Argument) : Except RenderFault Bool := do
  pure (f (← required args 0) (← required args 1))

/-- Whether an argument is true; a missing one is not. -/
def isTrue (a : Argument) : Bool :=
  (a.map isTruthy).getD false

def lookup (args : List Argument) : Except RenderFault Json :=
  let found := match args with
    | some (.arr items) :: some (.int n) :: _ => if n < 0 then none else items[n.toNat]?
    | some (.obj fields) :: some (.str key) :: _ => fields.lookup key
    | _ => none
  match found with
  | some v => .ok v
  | none => .error .other

def isGreater (v w : Json) : Bool := order? v w == some .gt

def isLess (v w : Json) : Bool := order? v w == some .lt

def isGreaterOrEqual (v w : Json) : Bool := isGreater v w || order? v w == some .eq

def isLessOrEqual (v w : Json) : Bool := isLess v w || order? v w == some .eq

/-- A helper for blocks where there is no block: nothing is shown, but what it is about has to be
there as an argument. -/
def withoutBlock (args : List Argument) : Except RenderFault Json :=
  if args.isEmpty then .error .other else .ok (.str "")

def condition? : String → Option (List Argument → Except RenderFault Bool)
  | "eq" => some (onTwo Json.equals)
  | "ne" => some (onTwo fun v w => !v.equals w)
  | "gt" => some (onTwo isGreater)
  | "gte" => some (onTwo isGreaterOrEqual)
  | "lt" => some (onTwo isLess)
  | "lte" => some (onTwo isLessOrEqual)
  | "and" => some fun args => .ok (args.all isTrue)
  | "or" => some fun args => .ok (args.any isTrue)
  | "not" => some fun args => do pure (!isTruthy (← required args 0))
  | _ => none

def value? : String → Option (List Argument → Except RenderFault Json)
  | "len" => some fun args => do pure (.int (size (← required args 0)))
  | "lookup" => some lookup
  | "if" | "unless" | "each" => some withoutBlock
  | "with" => some fun args =>
    match args with
    | some v :: _ => if isTruthy v then .ok (.str "") else .error .other
    | _ => .error .other
  | "raw" | "log" => some fun _ => .ok (.str "")
  | _ => none

def find? (name : String) : Option (List Argument → Except RenderFault Json) :=
  match condition? name with
  | some holds => some fun args => do pure (.bool (← holds args))
  | none => value? name

end Builtin

def callHelper (name : String) (args : List Argument) : Rendering Json :=
  match Helper.find? name with
  | some h => .ofHelper (h.call (h.positional (args.map (·.getD .null))))
  | none =>
    match Builtin.find? name with
    | some f => liftM (f args)
    | none => throw .other

def isHelper (name : String) : Bool :=
  (Helper.find? name).isSome || (Builtin.find? name).isSome

mutual

def Param.value (s : Scope) : Param → Rendering Argument
  | .literal v => pure (some v)
  | .path p => liftM (s.find p)
  | .call c => some <$> c.value s

def Call.value (s : Scope) : Call → Rendering Json
  | .mk name params named => do
    let args ← paramValues s params
    let _ ← namedValues s named
    callHelper name args

def paramValues (s : Scope) : List Param → Rendering (List Argument)
  | [] => pure []
  | p :: ps => do
    let v ← p.value s
    pure (v :: (← paramValues s ps))

def namedValues (s : Scope) : List (String × Param) → Rendering (List (String × Argument))
  | [] => pure []
  | (k, p) :: rest => do
    let v ← p.value s
    pure ((k, v) :: (← namedValues s rest))

end

def Shown.value (s : Scope) : Shown → Rendering Json
  | .call c => c.value s
  | .path p =>
    if isHelper p.text then callHelper p.text []
    else do
      match ← s.find p with
      | some v => pure v
      | none => throw .other
  | .inner c => do
    let v ← c.value s
    let name := String.ofList (printed v)
    if isHelper name then callHelper name [] else pure v

abbrev Writer := Scope → Rendering (List Char)

/-- The names of a block's parameters with the values they get; without names there are none. -/
def bind : List String → Json → Json → List (String × Json)
  | [name], v, _ => [(name, v)]
  | [name, key], v, k => [(name, v), (key, k)]
  | _, _, _ => []

/-- Renders a body for each of the entries of a collection from the one with a given index. -/
def writeEach (names : List String) (ofKey : Json → List (String × Json)) (count : Nat)
    (body : Writer) (index : Nat) : List (Json × Json) → Writer
  | [], _ => pure []
  | (key, v) :: rest, s => do
    let block : Block := {
      base := v
      bindings := [("first", .bool (index == 0)), ("last", .bool (index + 1 == count)),
        ("index", .int index)] ++ ofKey key
      params := bind names v key }
    let text ← body { s with blocks := block :: s.blocks }
    pure (text ++ (← writeEach names ofKey count body (index + 1) rest s))

/-- What a block without anything to render its body over writes. -/
def writeOtherwise (otherwise : Option Writer) : Writer :=
  match otherwise with
  | some w => w
  | none => fun _ => throw .other

/-- The body of a block whose condition holds, or else what follows `else`. -/
def writeIf (condition : Bool) (body : Writer) (otherwise : Option Writer) : Writer :=
  if condition then body
  else match otherwise with
    | some w => w
    | none => fun _ => pure []

/-- Whether a condition is met; an argument tells whether zero counts as true. -/
def isMet (named : List (String × Argument)) (v : Json) : Bool :=
  match named.lookup "includeZero" with
  | some (some (.bool true)) => isTruthyOrNumber v
  | _ => isTruthy v

/-- What a block writes. A block with a value of its own keeps the variables of the one around
it. -/
def writeBlock (c : Call) (names : List String) (body : Writer) (otherwise : Option Writer) : Writer :=
  fun s =>
    match c with
    | .mk name params named => do
      let args ← paramValues s params
      let named ← namedValues s named
      let given := args.head?.map (·.getD .null)
      match name, given with
      | "if", some v => writeIf (isMet named v) body otherwise s
      | "unless", some v => writeIf (!isMet named v) body otherwise s
      | "with", some v =>
        if isTruthy v then
          let params := match names with
            | [name] => [(name, v)]
            | _ => []
          let bindings := (s.blocks.head?.map (·.bindings)).getD []
          body { s with blocks := { base := v, bindings, params } :: s.blocks }
        else writeOtherwise otherwise s
      | "each", some (.arr items) =>
        if items.isEmpty then (otherwise.getD fun _ => pure []) s
        else
          let entries := items.mapIdx fun i v => (Json.int i, v)
          writeEach names (fun _ => []) items.length body 0 entries s
      | "each", some (.obj fields) =>
        if fields.isEmpty then (otherwise.getD fun _ => pure []) s
        else
          let entries := fields.map fun (k, v) => (Json.str k, v)
          writeEach names (fun k => [("key", k)]) fields.length body 0 entries s
      | "each", some _ => writeOtherwise otherwise s
      | "raw", _ => body s
      | _, _ =>
        match Builtin.condition? name with
        | some holds => writeIf (← holds args) body otherwise s
        | none => do pure (printed (← callHelper name args))

mutual

def Node.write : Node → Writer
  | .text t, _ => pure t
  | .output shown, s => do pure (printed (← shown.value s))
  | .block c names body otherwise, s =>
    writeBlock c names (writeAll body)
      (match otherwise with
        | some nodes => some (writeAll nodes)
        | none => none)
      s

def writeAll : List Node → Writer
  | [], _ => pure []
  | n :: ns, s => do
    let text ← n.write s
    pure (text ++ (← writeAll ns s))

end

def render (template : List Char) (data : Json) : Rendering (List Char) :=
  match parse? template with
  | some nodes => writeAll nodes { blocks := [{ base := data }], data }
  | none => throw .other

end Stencil.Blocks

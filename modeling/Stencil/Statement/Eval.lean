import Stencil.RenderFault
import Stencil.Statement.Filter
import Stencil.Statement.Test

/-!
# Expressions

An expression can be asked for its value, for whether it holds, and for the number that it is. The
three answers differ in more than form: a condition takes an absent name as false, and a number does
not look at a negation.
-/

namespace Stencil.Statement

/-- The answers of an expression. A condition has no answer if it compares a number with something
else, and a number has none where arithmetic leaves the numbers. -/
structure Meaning where
  value : Rendering Json
  holds : Rendering (Option Bool)
  number : Rendering (Option Json)

/-- An argument with its value, which counts once it is asked for. -/
abbrev PendingArguments := List (String × Rendering Json)

def Scope.value (s : Scope) (p : Path) : Rendering Json :=
  match Path.value? s p with
  | some v => pure v
  | none => throw .other

namespace Number

def isSigned (n : Int) : Bool :=
  Json.minInt ≤ n && n ≤ Json.maxInt

def isUnsigned (n : Int) : Bool :=
  0 ≤ n && n < Nat.pow 2 64

def double (v : Json) : Double :=
  v.double?.getD .zero

def ofDouble (x : Double) : Option Json :=
  if x.isFinite then some (.float x) else none

/-- Arithmetic on whole numbers must not leave the range of both of them; all else is arithmetic on
doubles. -/
def arith (onInts : Int → Int → Int) (onFloats : Float → Float → Float) (l r : Json) :
    Except RenderFault (Option Json) :=
  let onDoubles := ofDouble (.ofFloat (onFloats (double l).toFloat (double r).toFloat))
  match l, r with
  | .int m, .int n =>
    let k := onInts m n
    if isSigned m && isSigned n then if isSigned k then .ok (some (.int k)) else .error .other
    else if isUnsigned m && isUnsigned n then
      if isUnsigned k then .ok (some (.int k)) else .error .other
    else .ok onDoubles
  | _, _ => .ok onDoubles

/-- A whole quotient becomes a whole number of 64 bits, the nearest one if it is too large. -/
def quotient (l r : Json) : Option Json :=
  let q := Double.ofFloat ((double l).toFloat / (double r).toFloat)
  match q.toInt? with
  | some n => some (.int (max Json.minInt (min Json.maxInt n)))
  | none => ofDouble q

def remainder (l r : Json) : Except RenderFault (Option Json) :=
  let onDoubles := ofDouble ((double l).rem (double r))
  match l, r with
  | .int m, .int n =>
    if (isSigned m && isSigned n) || (isUnsigned m && isUnsigned n) then
      if n = 0 then .error .other else .ok (some (.int (m.tmod n)))
    else .ok onDoubles
  | _, _ => .ok onDoubles

def apply (op : MathOp) (l r : Json) : Except RenderFault (Option Json) :=
  match op with
  | .add => arith (· + ·) (· + ·) l r
  | .sub => arith (· - ·) (· - ·) l r
  | .mul => arith (· * ·) (· * ·) l r
  | .div => .ok (quotient l r)
  | .mod => remainder l r

def ofValue (v : Json) : Except RenderFault (Option Json) :=
  match v.double? with
  | some _ => .ok (some v)
  | none => .error .other

def isNonzero : Option Json → Bool
  | some v => !(double v).isZero
  | none => false

def compare (op : CompareOp) (l r : Option Json) : Except RenderFault (Option Bool) :=
  match l, r with
  | some l, some r =>
    let (x, y) := (double l, double r)
    .ok <| some <| match op with
      | .lt => x.less y
      | .le => !y.less x
      | .gt => y.less x
      | .ge => !x.less y
      | .eq => x.equals y
      | .ne => !x.equals y
  | _, _ => .error .other

end Number

/-- Whether two values are equal. Numbers are equal by size; a number and another value are neither
equal nor different. -/
def sameValue (l r : Json) : Option Bool :=
  match l.double?, r.double? with
  | some x, some y => some (x.equals y)
  | none, none => some (l.equals r)
  | _, _ => none

/-- Whether a value is an item, a part or a key of another one. -/
def contained (item container : Json) : Except RenderFault Bool :=
  match container, item with
  | .arr items, v => .ok (items.any (·.equals v))
  | .str s, .str t => .ok (hasInfix t.toList s.toList)
  | .obj fields, .str k => .ok (fields.any (·.1 == k))
  | _, _ => .error .other

/-- The values of arguments, or the fault of the first one that has none. -/
def settle : PendingArguments → Rendering Arguments
  | [] => pure []
  | (k, v) :: rest => do pure ((k, ← v) :: (← settle rest))

def range? (args : Arguments) : Option Json := do
  let start ← args.natOr? "start" 0
  let step ← args.natOr? "step_by" 1
  let _ ← args.lookup "end"
  let stop ← args.natOr? "end" 0
  if start > stop ∨ step = 0 then none
  else
    some (.arr ((List.range ((stop - start + step - 1) / step)).map
      fun (i : Nat) => .int ↑(start + i * step)))

/-- The value of a variable of the environment, or the one that is given for a variable that is not
set. -/
def environmentValue? (h : Host) (args : Arguments) : Option Json := do
  let name ← args.text? "name"
  ((h.bindings.lookup name).map .str).or (args.lookup "default")

def now? (h : Host) (args : Arguments) : Option Json := do
  let utc ← args.boolOr? "utc" false
  let timestamp ← args.boolOr? "timestamp" false
  some (h.now utc timestamp)

def random? (h : Host) (args : Arguments) : Option Json := do
  let start ← args.int64Or? "start" 0
  let _ ← args.lookup "end"
  let stop ← args.int64Or? "end" 0
  if start < stop then some (.int (h.random start stop)) else none

/-- The functions that every template can use beside the helpers; `throw` always fails. -/
def builtinFunction? (h : Host) (name : String) (args : Arguments) : Option Json :=
  match name with
  | "range" => range? args
  | "now" => now? h args
  | "get_random" => random? h args
  | "get_env" => environmentValue? h args
  | _ => none

def callFunction (host : Host) (name : String) (args : PendingArguments) : Rendering Json :=
  match Helper.find? name with
  | some h => do .ofHelper (h.call (h.named (← settle args)))
  | none => do
    let args ← settle args
    match builtinFunction? host name args with
    | some v => pure v
    | none => throw .other

def applyFilter (v : Json) (name : String) (args : PendingArguments) : Rendering Json :=
  match Helper.find? name with
  | some h => do .ofHelper (h.call (h.piped v (← settle args)))
  | none => do
    match (Filter.builtin? name).bind (· v (← settle args)) with
    | some v => pure v
    | none => throw .other

/-- A value piped through filters; the marks `safe` and `default` change nothing here. -/
def applyFilters (v : Json) : List (String × PendingArguments) → Rendering Json
  | [] => pure v
  | (name, args) :: rest => do
    if name = "safe" ∨ name = "default" then applyFilters v rest
    else applyFilters (← applyFilter v name args) rest

/-- What stands in for an absent value: the argument of a filter `default` in the first place. -/
def default? : List (String × PendingArguments) → Option (Rendering Json)
  | ("default", args) :: _ => some ((args.lookup "value").getD (throw .other))
  | _ => none

/-- The characters of a part of a concatenation, which has to be a text or a number. -/
def pieceOf (t : Term) (v : Json) : Except RenderFault (List Char) :=
  match t, v with
  | .float x, _ => .ok x.positional
  | _, .str s => .ok s.toList
  | _, .int n => .ok (Json.int n).numberText
  | _, .float x => .ok x.notated
  | _, _ => .error .other

/-- The value of a path with a negation and filters. An absent value is replaced by its default, and
its negation is true. -/
def pathValue (found : Option Json) (negated : Bool) (filters : List (String × PendingArguments)) :
    Rendering Json := do
  let start : Rendering (Option Json) :=
    match found with
    | some .null | none =>
      match default? filters with
      | some v => some <$> v
      | none => if found.isNone && !negated then throw .other else pure found
    | some v => pure (some v)
  match ← start with
  | none => pure (.bool true)
  | some v =>
    let v ← applyFilters v filters
    pure (if negated then .bool (!isTruthy v) else v)

/-- The answers of a term by its value, for a term that is asked for one first. -/
def Meaning.ofValue (value : Rendering Json) : Meaning where
  value := value
  holds := do
    match ← value with
    | .bool b => pure (some b)
    | _ => throw .other
  number := do liftM (Number.ofValue (← value))

def Meaning.ofCondition (holds : Rendering (Option Bool)) : Meaning where
  value := do pure (.bool ((← holds).getD false))
  holds := holds
  number := throw .other

def Meaning.ofNumber (number : Rendering (Option Json)) : Meaning where
  value := do
    match ← tryCatch number fun _ => throw .other with
    | some v => pure v
    | none => pure (.str "NaN")
  holds := do pure (some (Number.isNonzero (← number)))
  number := number

def Meaning.ofText (text : Rendering String) : Meaning where
  value := .str <$> text
  holds := do pure (some ((← text) != ""))
  number := throw .other

def Meaning.qualify (found : Option Json) (t : Term) (m : Meaning) (negated : Bool)
    (filters : List (String × PendingArguments)) : Meaning :=
  let condition : Rendering Bool := do
    match ← m.holds with
    | some b => pure (b != negated)
    | none => pure false
  let finish (v : Json) : Rendering Json := do
    let v ← applyFilters v filters
    pure (if negated then .bool (!isTruthy v) else v)
  let value : Rendering Json :=
    match t with
    | .path _ => pathValue found negated filters
    | .compare _ _ _ | .and _ _ | .or _ _ => do finish (.bool (← condition))
    | _ => do finish (← m.value)
  { value
    holds :=
      match t with
      | .path _ => tryCatch (do pure (some (isTruthy (← value)))) fun _ => pure (some false)
      | .concat _ => do
        match ← value with
        | .str s => pure (some (s != ""))
        | _ => throw .other
      | _ => some <$> condition
    number :=
      if filters.isEmpty then m.number
      else do liftM (Number.ofValue (← value)) }

mutual

def Expr.meaning (s : Scope) : Expr → Meaning
  | .mk t negated filters =>
    let found := match t with
      | .path p => Path.value? s p
      | _ => none
    Meaning.qualify found t (t.meaning s) negated (calls s filters)

def Term.meaning (s : Scope) : Term → Meaning
  | .text t => .ofText (pure t)
  | .int n => .ofNumber (pure (some (.int n)))
  | .float x => .ofNumber (pure (some (.float x)))
  | .bool b => { Meaning.ofValue (pure (.bool b)) with number := throw .other }
  | .path p => .ofValue (s.value p)
  | .call (.mk name args) => .ofValue (callFunction s.host name (arguments s args))
  | .array items =>
    { value := .arr <$> values s items, holds := throw .other, number := throw .other }
  | .concat parts => .ofText (String.ofList <$> joined s parts)
  | .math op left right =>
    .ofNumber do
      match ← (left.meaning s).number, ← (right.meaning s).number with
      | some l, some r => Number.apply op l r
      | _, _ => pure none
  | .compare op left right =>
    let (l, r) := (left.meaning s, right.meaning s)
    .ofCondition <| match op with
      | .eq => do pure (sameValue (← l.value) (← r.value))
      | .ne => do pure ((sameValue (← l.value) (← r.value)).map (!·))
      | op => do Number.compare op (← l.number) (← r.number)
  | .and left right =>
    .ofCondition do
      if (← (left.meaning s).holds).getD false then (right.meaning s).holds else pure (some false)
  | .or left right =>
    .ofCondition do
      if (← (left.meaning s).holds).getD false then pure (some true) else (right.meaning s).holds
  | .contains negated item container =>
    .ofCondition do
      let item ← (item.meaning s).value
      pure (some ((← contained item (← (container.meaning s).value)) != negated))
  | .test negated p name args =>
    .ofCondition do
      match Test.builtin? name with
      | none => throw .other
      | some holds =>
        match holds (Path.value? s p) (← values s args) with
        | some b => pure (some (b != negated))
        | none => throw .other
  | .macroCall _ => .ofValue (throw .other)

def values (s : Scope) : List Expr → Rendering (List Json)
  | [] => pure []
  | e :: es => do
    let v ← (e.meaning s).value
    pure (v :: (← values s es))

def arguments (s : Scope) : List (String × Expr) → PendingArguments
  | [] => []
  | (k, e) :: rest => (k, (e.meaning s).value) :: arguments s rest

def joined (s : Scope) : List Term → Rendering (List Char)
  | [] => pure []
  | t :: ts => do
    let piece ← pieceOf t (← (t.meaning s).value)
    pure (piece ++ (← joined s ts))

def calls (s : Scope) : List Call → List (String × PendingArguments)
  | [] => []
  | .mk name args :: rest => (name, arguments s args) :: calls s rest

end

def Expr.value (s : Scope) (e : Expr) : Rendering Json :=
  (e.meaning s).value

def Expr.holds (s : Scope) (e : Expr) : Rendering Bool := do
  pure ((← (e.meaning s).holds).getD false)

end Stencil.Statement

import Stencil.Shell.Machine

/-!
# Conditions

The conditions on texts, numbers and files that scripts can ask for.
-/

namespace Stencil.Shell.Condition

abbrev Result := Except Octets

inductive Operator where
  | unary (letter : Char)
  | binary (name : String)
  | not
  | and
  | or
  | opening
  | closing
  deriving DecidableEq, Repr

def binaryNames : List String :=
  ["=", "!=", "<", ">", "-eq", "-ne", "-gt", "-ge", "-lt", "-le", "-nt", "-ot", "-ef"]

def unaryLetters : Octets :=
  "rwxfdcbpugksztnhOGLSe".toList

def operator? (s : Octets) : Option Operator :=
  match s with
  | ['!'] => some .not
  | ['-', 'a'] => some .and
  | ['-', 'o'] => some .or
  | ['('] => some .opening
  | [')'] => some .closing
  | _ =>
    let name := String.ofList s
    if binaryNames.contains name then some (.binary name)
    else
      match s with
      | ['-', c] => if unaryLetters.contains c then some (.unary c) else none
      | _ => none

def isBinary (s : Octets) : Bool :=
  match operator? s with
  | some (.binary _) | some .and | some .or => true
  | _ => false

/-- What the first of some arguments is: an operator, or nothing if it is an operand. -/
def lex (args : List Octets) : Option Operator :=
  match args with
  | [] => none
  | s :: rest =>
    match operator? s, rest with
    | some (.unary _), [] => none
    | some .opening, [] => none
    | some (.unary c), second :: _ :: _ => if isBinary second then none else some (.unary c)
    | found, _ => found

def number (s : Octets) : Result Int :=
  let gap (c : Char) : Bool := c == ' ' || c == '\t' || c == '\n'
  let trimmed := ((s.dropWhile gap).reverse.dropWhile gap).reverse
  match Octets.int? trimmed with
  | some n => .ok n
  | none => .error ("Illegal number: ".toList ++ s)

def unaryHolds (fs : FileSystem) (letter : Char) (s : Octets) : Bool :=
  let node : Option Node := (fs.status (pathOf s)).toOption.map (·.2)
  let isDevice := s == nullDevice
  match letter with
  | 'z' => s.isEmpty
  | 'n' => !s.isEmpty
  | 'e' | 'O' | 'G' => node.isSome || isDevice
  | 'r' => node.any (fs.allows ownerRead ·.mode) || isDevice
  | 'w' => node.any (fs.allows ownerWrite ·.mode) || isDevice
  | 'c' => isDevice
  | 'f' => match node with
    | some (.file ..) => true
    | _ => false
  | 'd' => match node with
    | some (.dir _) => true
    | _ => false
  | 'x' => match node with
    | some (.dir mode) => fs.allows ownerSearch mode
    | some (.file mode _) => mode &&& 0o111 != 0 && fs.allows ownerSearch mode
    | none => false
  | 's' => match node with
    | some (.dir _) => true
    | some (.file _ content) => content.size > 0
    | none => false
  | _ => false

def binaryHolds (fs : FileSystem) (name : String) (l r : Octets) : Result Bool :=
  let onNumbers (f : Int → Int → Bool) : Result Bool := do
    return f (← number l) (← number r)
  match name with
  | "=" => .ok (l == r)
  | "!=" => .ok (l != r)
  | "<" => .ok (Octets.le l r && l != r)
  | ">" => .ok (!Octets.le l r)
  | "-eq" => onNumbers (· == ·)
  | "-ne" => onNumbers (· != ·)
  | "-gt" => onNumbers (· > ·)
  | "-ge" => onNumbers (· ≥ ·)
  | "-lt" => onNumbers (· < ·)
  | "-le" => onNumbers (· ≤ ·)
  | "-ef" =>
    match fs.status (pathOf l), fs.status (pathOf r) with
    | .ok (p, _), .ok (q, _) => .ok (p == q)
    | _, _ => .ok false
  | _ => .ok false

/-- What is left after a condition has been read, beginning with its last argument. -/
abbrev Left := Bool × List Octets

mutual

def anyOf (fs : FileSystem) : (steps : Nat) → List Octets → Result Left
  | 0, args => .ok (false, args)
  | steps + 1, args => do
    let (b, left) ← allOf fs steps args
    match lex (left.drop 1) with
    | some .or =>
      let (c, left) ← anyOf fs steps (left.drop 2)
      return (b || c, left)
    | _ => return (b, left)

def allOf (fs : FileSystem) : (steps : Nat) → List Octets → Result Left
  | 0, args => .ok (false, args)
  | steps + 1, args => do
    let (b, left) ← negation fs steps args
    match lex (left.drop 1) with
    | some .and =>
      let (c, left) ← allOf fs steps (left.drop 2)
      return (b && c, left)
    | _ => return (b, left)

def negation (fs : FileSystem) : (steps : Nat) → List Octets → Result Left
  | 0, args => .ok (false, args)
  | steps + 1, args => do
    match lex args with
    | some .not =>
      let (b, left) ← negation fs steps (args.drop 1)
      return (!b, left)
    | _ => primary fs steps args

def primary (fs : FileSystem) : (steps : Nat) → List Octets → Result Left
  | 0, args => .ok (false, args)
  | steps + 1, args => do
    match args, lex args with
    | [], _ => return (false, [])
    | _, some .opening =>
      match lex (args.drop 1) with
      | some .closing => return (false, args.drop 1)
      | _ =>
        let (b, left) ← anyOf fs steps (args.drop 1)
        match lex (left.drop 1) with
        | some .closing => return (b, left.drop 1)
        | _ => throw "closing paren expected".toList
    | op :: rest, some (.unary letter) =>
      match rest with
      | [] => throw (op ++ ": argument expected".toList)
      | operand :: _ => return (unaryHolds fs letter operand, rest)
    | operand :: rest, _ =>
      match rest with
      | op :: right =>
        match operator? op with
        | some (.binary name) =>
          match right with
          | [] => throw (op ++ ": argument expected".toList)
          | r :: _ => return (← binaryHolds fs name operand r, right)
        | _ => return (!operand.isEmpty, args)
      | [] => return (!operand.isEmpty, args)

end

/-- Whether the arguments are a condition that holds. Few arguments are read by their number. -/
def holds (fs : FileSystem) : (steps : Nat) → List Octets → Result Bool
  | 0, _ => .ok false
  | _, [] => .ok false
  | steps + 1, args => do
    let full (args : List Octets) : Result Bool := do
      let (b, left) ← anyOf fs (4 * args.length + 4) args
      match left with
      | first :: _ :: _ => throw (first ++ ": unexpected operator".toList)
      | _ => return b
    match args with
    | [l, op, r] =>
      match operator? op with
      | some (.binary name) => binaryHolds fs name l r
      | some .and => return !l.isEmpty && !r.isEmpty
      | some .or => return !l.isEmpty || !r.isEmpty
      | _ =>
        if l == ['('] && r == [')'] then full [op]
        else if l == ['!'] then return !(← holds fs steps [op, r])
        else full args
    | [a, b, c, d] =>
      if a == ['('] && d == [')'] then full [b, c]
      else if a == ['!'] then return !(← holds fs steps [b, c, d])
      else full args
    | _ => full args

end Stencil.Shell.Condition

namespace Stencil.Shell.Program

/-- Tells by its status whether a condition holds; `head` begins messages. -/
def test (head : Octets) : Program := fun args => do
  match Condition.holds (← Act.fileSystem) (args.length + 2) args with
  | .ok b => return .exited (if b then 0 else 1)
  | .error why =>
    Act.complain (head ++ why)
    return .exited 2

def bracket (head : Octets) : Program := fun args => do
  if args.getLast? == some [']'] then test head args.dropLast
  else
    Act.complain (head ++ "missing ]".toList)
    return .exited 2

end Stencil.Shell.Program

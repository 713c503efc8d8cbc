import Stencil.Shell.Machine

/-!
# Arguments of programs

Options with letters, which may be written together and stand before, between or after the operands.
-/

namespace Stencil.Shell

structure Arguments where
  /-- The options in order, with the texts that belong to them. -/
  options : List (Char × Octets) := []
  operands : List Octets := []

namespace Arguments

structure Letters where
  /-- The options that stand alone. -/
  plain : String
  /-- The options with a text. -/
  valued : String := ""
  /-- The options with a text if one follows in the same argument. -/
  attached : String := ""
  /-- Longer names. -/
  long : List (String × Char) := []
  /-- Whether options end at the first operand. -/
  strict : Bool := false
  /-- What is shown of the use of a program whose arguments are refused. -/
  usage : String := ""

def has (a : Arguments) (c : Char) : Bool :=
  a.options.any (·.1 == c)

def value? (a : Arguments) (c : Char) : Option Octets :=
  (a.options.reverse.find? (·.1 == c)).map (·.2)

def values (a : Arguments) (c : Char) : List Octets :=
  (a.options.filter (·.1 == c)).map (·.2)

inductive Refusal where
  | unknown (letter : Char)
  | unknownLong (name : Octets)
  | missing (letter : Char)
  deriving DecidableEq, Repr

def Refusal.message : Refusal → Octets
  | unknown c => "invalid option -- '".toList ++ [c, '\'']
  | unknownLong name => "unrecognized option '".toList ++ name ++ ['\'']
  | missing c => "option requires an argument -- '".toList ++ [c, '\'']

def cluster (l : Letters) : Octets → List Octets →
    Except Refusal (List (Char × Octets) × List Octets)
  | [], args => .ok ([], args)
  | c :: cs, args => do
    if l.plain.contains c then
      let (options, args) ← cluster l cs args
      return ((c, []) :: options, args)
    else if l.valued.contains c then
      match cs, args with
      | [], [] => throw (.missing c)
      | [], v :: args => return ([(c, v)], args)
      | cs, args => return ([(c, cs)], args)
    else if l.attached.contains c then return ([(c, cs)], args)
    else throw (.unknown c)

def parse (l : Letters) : (count : Nat) → List Octets → Except Refusal Arguments
  | 0, args => .ok { operands := args }
  | _, [] => .ok {}
  | count + 1, arg :: args =>
    match arg with
    | ['-', '-'] => .ok { operands := args }
    | '-' :: '-' :: name =>
      let key := String.ofList (name.takeWhile (· != '='))
      match l.long.lookup key with
      | some c => do
        let value := (name.dropWhile (· != '=')).drop 1
        if l.valued.contains c && !name.contains '=' then
          match args with
          | [] => throw (.missing c)
          | v :: args =>
            let rest ← parse l count args
            return { rest with options := (c, v) :: rest.options }
        else
          let rest ← parse l count args
          return { rest with options := (c, value) :: rest.options }
      | none => .error (.unknownLong arg)
    | '-' :: c :: cs => do
      let (options, args) ← cluster l (c :: cs) args
      let rest ← parse l count args
      return { rest with options := options ++ rest.options }
    | operand => do
      if l.strict then return { operands := operand :: args }
      else
        let rest ← parse l count args
        return { rest with operands := operand :: rest.operands }

end Arguments

namespace Program

def complain (name : String) (text : Octets) : Act Unit :=
  Act.complain ((name ++ ": ").toList ++ text)

def quoted (s : Octets) : Octets :=
  '\'' :: s ++ ['\'']

def reason (e : IoError) : Octets :=
  e.reason.toList

/-- Runs a program with its options; if it has not all of them it ends with a status. -/
def withOptions (name : String) (l : Arguments.Letters) (misuse : Nat)
    (run : Arguments → Act Status) : Program := fun args => do
  match Arguments.parse l (args.length + 1) args with
  | .ok a => run a
  | .error e =>
    complain name e.message
    if !l.usage.isEmpty then Act.complain l.usage.toList
    Act.complain ("Try '" ++ name ++ " --help' for more information.").toList
    return .exited misuse

/-- Reads the operands, or the input if there are none or one is a dash. -/
def readOperands (operands : List Octets) : Act (List (Octets × Except IoError Octets)) :=
  (if operands.isEmpty then [['-']] else operands).mapM fun name => do
    if name == ['-'] then return (name, .ok (← Act.takeInput))
    else return (name, ← Act.readFile name)

/-- Reads the operands one after the other and reports those that cannot be read; the contents, and
whether all could be read. -/
def readAll (name : String) (operands : List Octets) (describe : Octets → IoError → Octets) :
    Act (List Octets × Bool) := do
  let found ← readOperands operands
  let step (acc : List Octets × Bool) (f : Octets × Except IoError Octets) : Act (List Octets × Bool) :=
    match f.2 with
    | .ok content => return (acc.1 ++ [content], acc.2)
    | .error e => do
      complain name (describe f.1 e)
      return (acc.1, false)
  found.foldlM step ([], true)

def plainly (file : Octets) (e : IoError) : Octets :=
  file ++ ": ".toList ++ reason e

end Program

end Stencil.Shell

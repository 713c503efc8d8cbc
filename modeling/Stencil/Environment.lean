import Stencil.Path
import Stencil.Text.CharClass

/-!
# Environments

The variables of the process and the home directory of its account, and paths that refer to them.
-/

namespace Stencil

structure Environment where
  bindings : List (String × String) := []
  /-- The home directory of the account, if it has one. -/
  accountHome : Option String := none
  deriving Repr, Inhabited

namespace Environment

def value (env : Environment) (name : String) : String :=
  (env.bindings.lookup name).getD ""

/-- What stands for `~`: the home directory that the process is told, or else the one of its
account, or else the sign itself. -/
def home (env : Environment) : String :=
  if env.value "HOME" = "" then env.accountHome.getD "~" else env.value "HOME"

/-- The name of a variable at the beginning of a text and what follows it. -/
def variableName? : List Char → Option (List Char × List Char)
  | [] => none
  | c :: cs =>
    if isIdentStart c then some (c :: cs.takeWhile isIdentChar, cs.dropWhile isIdentChar) else none

/-- A reference `$NAME` or `${NAME}` whose `$` stands before the text: the name and what follows
the reference. -/
def reference? (cs : List Char) : Option (List Char × List Char) :=
  match cs with
  | '{' :: inner =>
    match variableName? inner with
    | some (name, '}' :: rest) => some (name, rest)
    | _ => none
  | _ => variableName? cs

theorem length_le_of_variableName? {cs name rest : List Char}
    (h : variableName? cs = some (name, rest)) : rest.length < cs.length := by
  cases cs with
  | nil => simp [variableName?] at h
  | cons c cs =>
    simp only [variableName?] at h
    split at h
    · obtain ⟨-, rfl⟩ : _ ∧ cs.dropWhile isIdentChar = rest := by simpa using h
      exact Nat.lt_succ_of_le (List.dropWhile_suffix _).length_le
    · simp at h

theorem length_le_of_reference? {cs name rest : List Char}
    (h : reference? cs = some (name, rest)) : rest.length < cs.length := by
  unfold reference? at h
  split at h
  next inner =>
    split at h
    next n r hn =>
      have := length_le_of_variableName? hn
      obtain ⟨rfl, rfl⟩ : n = name ∧ r = rest := by simpa using h
      simp only [List.length_cons] at this ⊢
      omega
    next => simp at h
  next => exact length_le_of_variableName? h

/-- Replaces the references to variables by their values, once from the left to the right. -/
def expandVariables (env : Environment) : List Char → List Char
  | [] => []
  | c :: cs =>
    if c = '$' then
      match _h : reference? cs with
      | some (name, rest) => (env.value (String.ofList name)).toList ++ expandVariables env rest
      | none => c :: expandVariables env cs
    else c :: expandVariables env cs
termination_by cs => cs.length
decreasing_by
  · have := length_le_of_reference? _h
    simp only [List.length_cons]
    omega
  · simp
  · simp

def referencedNames : List Char → List String
  | [] => []
  | c :: cs =>
    if c = '$' then
      match reference? cs with
      | some (name, _) => String.ofList name :: referencedNames cs
      | none => referencedNames cs
    else referencedNames cs

def expandHome (env : Environment) (cs : List Char) : List Char :=
  cs.flatMap fun c => if c = '~' then env.home.toList else [c]

/-- A path with its references to the home directory and then to variables replaced. -/
def expandPath (env : Environment) (raw : List Char) : Path :=
  ⟨env.expandVariables (env.expandHome raw)⟩

end Environment

end Stencil

import Stencil.Statement.Syntax
import Stencil.Text.Search

/-!
# Paths

A path is followed in two steps. First the brackets in it are resolved: what stands in them becomes
a key in double quotes after a dot, where an inner path is replaced by the key that its value stands
for. Then the path is cut into keys at the dots that stand outside quotes.
-/

namespace Stencil.Statement

namespace Path

/-- Where the search for inner paths stands: outside brackets, right after an opening bracket, or
inside brackets of some depth, with what has been seen of the inner path, the last character first.
-/
inductive Place where
  | outside
  | opened
  | inside (depth : Nat) (seen : List Char)

def isIndex (cs : List Char) : Bool :=
  let digits := match cs with
    | '+' :: ds => ds
    | ds => ds
  !digits.isEmpty && digits.all Char.isDigit &&
    digits.foldl (fun n c => n * 10 + (c.toNat - '0'.toNat)) 0 < Nat.pow 2 64

def innerFrom : Place → List Char → Option (List Path)
  | .outside, [] => some []
  | .opened, [] | .inside _ _, [] => none
  | .outside, c :: cs => innerFrom (if c = '[' then .opened else .outside) cs
  | .opened, c :: cs =>
    innerFrom (if c = '"' ∨ c = '\'' then .outside else .inside 1 [c]) cs
  | .inside depth seen, c :: cs =>
    if c = ']' ∧ depth = 1 then do
      let others ← innerFrom .outside cs
      some (if isIndex seen.reverse then others else seen.reverse :: others)
    else
      let depth := if c = ']' then depth - 1 else if c = '[' then depth + 1 else depth
      innerFrom (.inside depth (c :: seen)) cs

/-- The paths in the brackets of a path: what is neither an index nor in quotes. None if a bracket
is left open, which only quotes can bring about. -/
def inner? (p : Path) : Option (List Path) :=
  innerFrom .outside p

/-- Puts a key in the place of the first brackets with the given path in them. -/
def replaceInner (p q : Path) (key : List Char) : Path :=
  match cutAt? ('[' :: q ++ [']']) p with
  | some (before, after) => before ++ '.' :: key ++ after
  | none => p ++ '.' :: key

/-- Writes brackets as dots and the quotes in them as double quotes. A slash is written in the way
of JSON pointers. -/
def withoutBrackets (p : Path) : List Char :=
  [(['/'], ['~', '1']), (['[', '\''], ['.', '"']), (['[', '"'], ['.', '"']), (['['], ['.']),
    (['\'', ']'], ['"']), (['"', ']'], ['"']), ([']'], [])].foldl
      (fun text (pat, new) => replaceAll pat new text) p

/-- A path with its brackets resolved; `keyOf` tells the key that an inner path stands for. -/
def resolve? (keyOf : Path → Option (List Char)) (p : Path) : Option (List Char) := do
  let replaced ← (← inner? p).foldlM (fun text q => do pure (replaceInner text q (← keyOf q))) p
  pure (withoutBrackets replaced)

/-- How far a key has been read: which quotes are open, whether a backslash stands before the next
character, and the key so far, the last character first. -/
structure KeyReader where
  inSingle : Bool := false
  inDouble : Bool := false
  escaped : Bool := false
  seen : List Char := []

/-- The keys so far, the last one of which ends here unless it is empty. -/
def KeyReader.finish (r : KeyReader) (others : List (List Char)) : List (List Char) :=
  if r.seen.isEmpty then others else r.seen.reverse :: others

def keysFrom (r : KeyReader) : List Char → List (List Char)
  | [] => r.finish []
  | c :: cs =>
    if c = '"' ∧ !r.escaped then
      r.finish (keysFrom { r with inDouble := !r.inDouble, seen := [] } cs)
    else if c = '\'' ∧ !r.escaped then
      r.finish (keysFrom { r with inSingle := !r.inSingle, seen := [] } cs)
    else if c = '\\' then keysFrom { r with escaped := true, seen := c :: r.seen } cs
    else if c = '.' ∧ !r.inSingle ∧ !r.inDouble ∧ !r.escaped then
      r.finish (keysFrom { r with seen := [] } cs)
    else keysFrom { r with escaped := false, seen := c :: r.seen } cs

/-- A key in which `~1` and `~0` are read as slash and tilde. -/
def decodeKey (key : List Char) : String :=
  String.ofList (replaceAll ['~', '0'] ['~'] (replaceAll ['~', '1'] ['/'] key))

/-- The keys of a path without brackets. Dots and quotes end a key, unless a backslash precedes
them; dots in quotes belong to it. Empty keys do not count. -/
def keys (p : List Char) : List String :=
  (keysFrom {} p).map decodeKey

def cutRoot (p : List Char) : String × Option (List Char) :=
  match cutAt? ['.'] p with
  | some (root, rest) => (String.ofList root, some rest)
  | none => (String.ofList p, none)

end Path

end Stencil.Statement

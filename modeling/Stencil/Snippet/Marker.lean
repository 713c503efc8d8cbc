import Stencil.Text.CharClass
import Stencil.Text.Search

/-!
# Snippet markers

The comments in a template that say where hand-written code goes. A marker is bare or stands in
double braces.
-/

namespace Stencil

inductive Marker where
  | implementations
  | imports
  | hook
  deriving DecidableEq, Repr

namespace Marker

/-- What a marker in a text consists of: its own text, the name of a hook, and what follows it. -/
structure Found where
  text : List Char
  name : String
  rest : List Char

/-- The comment of a marker at the beginning of a text: its length and the name of a hook. -/
def comment? : Marker → List Char → Option (Nat × List Char)
  | implementations, cs =>
    let mark := "/* FUNCTION_IMPLEMENTATIONS */".toList
    (dropPrefix? mark cs).map fun _ => (mark.length, [])
  | imports, cs =>
    let mark := "/* FUNCTION_IMPORTS */".toList
    (dropPrefix? mark cs).map fun _ => (mark.length, [])
  | hook, cs => do
    let afterMark ← dropPrefix? "/* FUNCTION_IMPLEMENTATIONS".toList cs
    let atHook := afterMark.dropWhile isBlank
    if atHook.length = afterMark.length then none
    let atName ← dropPrefix? "hook=\"".toList atHook
    let name := atName.takeWhile isUnicodeWord
    if name.isEmpty then none
    let afterName ← dropPrefix? ['"'] (atName.dropWhile isUnicodeWord)
    let atEnd := afterName.dropWhile isBlank
    if atEnd.length = afterName.length then none
    let rest ← dropPrefix? ['*', '/'] atEnd
    some (cs.length - rest.length, name)

/-- The length of the blanks and closing braces at the beginning of a text, if there are two. -/
def closing? (cs : List Char) : Option Nat :=
  let atBraces := cs.dropWhile isBlank
  (dropPrefix? ['}', '}'] atBraces).map fun rest => cs.length - rest.length

def opening? (cs : List Char) : Option Nat :=
  (dropPrefix? ['{', '{'] cs).map fun rest => cs.length - (rest.dropWhile isBlank).length

/-- The length of a marker at the beginning of a text, and the name of a hook. A hook may stand in
braces on one side only; the other markers stand in braces on both sides or are bare. -/
def length? (m : Marker) (cs : List Char) : Option (Nat × List Char) :=
  match opening? cs with
  | some before => do
    let (length, name) ← m.comment? (cs.drop before)
    match m, closing? (cs.drop (before + length)) with
    | _, some after => some (before + length + after, name)
    | hook, none => some (before + length, name)
    | _, none => none
  | none => do
    let (length, name) ← m.comment? cs
    match m, closing? (cs.drop length) with
    | hook, some after => some (length + after, name)
    | _, _ => some (length, name)

def find? (m : Marker) (cs : List Char) : Option Found :=
  (m.length? cs).map fun (length, name) =>
    ⟨cs.take length, String.ofList name, cs.drop length⟩

/-- Replaces the markers of a kind, from the left to the right; what stands in for a marker is not
searched again. `count` bounds the number of steps. -/
def replaceWithin (m : Marker) (f : Found → List Char) : (count : Nat) → List Char → List Char
  | 0, cs => cs
  | _ + 1, [] => []
  | count + 1, c :: cs =>
    match m.find? (c :: cs) with
    | some found => f found ++ replaceWithin m f count found.rest
    | none => c :: replaceWithin m f count cs

def replace (m : Marker) (f : Found → List Char) (cs : List Char) : List Char :=
  m.replaceWithin f (cs.length + 1) cs

/-- Puts a text in front of each marker of a kind; the markers stay. -/
def insertBefore (m : Marker) (text : List Char) (cs : List Char) : List Char :=
  m.replace (fun found => text ++ found.text) cs

def collapse (cs : List Char) : List Char :=
  imports.replace (fun _ => []) (implementations.replace (fun _ => []) (hook.replace (fun _ => []) cs))

end Marker

end Stencil

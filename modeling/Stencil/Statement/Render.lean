import Stencil.Statement.Eval
import Stencil.Statement.Template
import Stencil.Text.Grapheme

/-!
# Rendering statement templates

Statements run one after the other over the names that are known so far, and write text. A loop runs
its body in a frame of its own, which is new in every round.
-/

namespace Stencil.Statement

inductive Signal where
  | break
  | continue
  deriving DecidableEq, Repr

/-- What has been written so far, and the names known so far, the innermost frame first. -/
structure Progress where
  written : String := ""
  frames : List Frame := [{}]
  signal : Option Signal := none

namespace Progress

def scope (p : Progress) (base : Base) : Scope :=
  { base with frames := p.frames }

def write (p : Progress) (text : List Char) : Progress :=
  { p with written := p.written ++ String.ofList text }

def Frame.assign (f : Frame) (name : String) (v : Json) : Frame :=
  { f with bindings := (name, v) :: f.bindings }

def assign (p : Progress) (name : String) (v : Json) : Progress :=
  match p.frames with
  | f :: rest => { p with frames := Frame.assign f name v :: rest }
  | [] => p

def assignOutside (p : Progress) (name : String) (v : Json) : Progress :=
  let loops := p.frames.takeWhile (·.round.isSome)
  match p.frames.dropWhile (·.round.isSome) with
  | f :: rest => { p with frames := loops ++ Frame.assign f name v :: rest }
  | [] => p

/-- Ends the statements of a loop's body early; elsewhere that is a fault. -/
def raise (p : Progress) (signal : Signal) : Rendering Progress :=
  match p.frames with
  | f :: _ => if f.round.isSome then pure { p with signal := some signal } else throw .other
  | [] => throw .other

end Progress

abbrev Action := Progress → Rendering Progress

/-- The values that a loop over a text runs through. There is a round for every character, but the
values are the graphemes, so the last rounds have none where a grapheme has several characters. -/
def graphemeRounds (text : List Char) : List (Option Json) :=
  let graphemes := (Grapheme.cut text).map fun g => some (Json.str (String.ofList g))
  graphemes ++ List.replicate (text.length - graphemes.length) none

/-- The pairs of keys and values that a loop runs over. Objects need a name for their keys, and
texts and lists must not have one. -/
def entries? (keyName : Option String) (v : Json) : Option (List (String × Option Json)) :=
  match v, keyName with
  | .arr items, none => some (items.map fun item => ("", some item))
  | .str s, none => some ((graphemeRounds s.toList).map ("", ·))
  | .obj fields, some _ => some (fields.map fun (key, value) => (key, some value))
  | _, _ => none

def Expr.isContainer : Expr → Bool
  | .mk (.path _) _ _ | .mk (.call _) _ _ | .mk (.array _) _ _ => true
  | _ => false

def runRounds (keyName : Option String) (valueName : String) (count : Nat) (body : Action)
    (index : Nat) : List (String × Option Json) → Action
  | [], p => pure p
  | (key, value) :: rest, p => do
    let round : Round := { keyName, valueName, key, value, index, count }
    let p ← body { p with frames := { round := some round } :: p.frames }
    let done := { p with frames := p.frames.tail, signal := none }
    if p.signal = some .break then pure done
    else runRounds keyName valueName count body (index + 1) rest done

mutual

def Node.run (base : Base) : Node → Action
  | .text s, p | .raw _ s _, p => pure (p.write s)
  | .comment _, p => pure p
  | .output _ e, p => do pure (p.write (printed (← e.value (p.scope base))))
  | .set _ everywhere name e, p => do
    let v ← e.value (p.scope base)
    pure (if everywhere then p.assignOutside name v else p.assign name v)
  | .ifs branches otherwise _, p =>
    runBranches base branches
      (match otherwise with
        | some (_, body) => runAll base body
        | none => pure)
      p
  | .loop _ keyName valueName container body ifEmpty _, p => do
    if !container.isContainer then throw .other
    match entries? keyName (← container.value (p.scope base)) with
    | none => throw .other
    | some [] => runAll base ifEmpty p
    | some entries => runRounds keyName valueName entries.length (runAll base body) 0 entries p
  | .filtered _ (.mk name args) body _, p => do
    let inner ← runAll base body { p with written := "" }
    let after := { inner with written := p.written }
    if name = "safe" then pure (after.write inner.written.toList)
    else
      let v ← applyFilter (.str inner.written) name (arguments (inner.scope base) args)
      pure (after.write (printed v))
  | .block _ body _, p => runAll base body p
  | .include _ mayBeMissing, p => if mayBeMissing then pure p else throw .other
  | .break _, p => p.raise .break
  | .continue _, p => p.raise .continue

def runAll (base : Base) : List Node → Action
  | [], p => pure p
  | n :: rest, p => do
    let p ← n.run base p
    if p.signal.isSome then pure p else runAll base rest p

def runBranches (base : Base) : List (Trim × Expr × List Node) → Action → Action
  | [], otherwise, p => otherwise p
  | (_, e, body) :: rest, otherwise, p => do
    if ← e.holds (p.scope base) then runAll base body p
    else runBranches base rest otherwise p

end

def write (nodes : List Node) (base : Base) : Rendering (List Char) := do
  let p ← runAll base nodes {}
  pure p.written.toList

end Stencil.Statement

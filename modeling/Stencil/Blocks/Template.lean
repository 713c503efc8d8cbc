import Stencil.Blocks.Grammar
import Stencil.Text.CharClass

/-!
# Reading templates

A template is cut into texts and tags, blanks are removed around the tags, and the tags that open
and close blocks are matched. A tag other than an output that stands alone on a line takes the line
with it.
-/

namespace Stencil.Blocks

inductive Piece where
  | text (s : List Char)
  | tag (t : Trimmed)

namespace Piece

def atBraces (count : Nat) (cs : List Char) : Bool :=
  startsWith (List.replicate count '{') cs

/-- The text before the next tag and what follows it. A backslash before braces makes them text, and
a backslash before that one stays. -/
def splitText (count : Nat) : List Char → List Char × List Char
  | [] => ([], [])
  | '\\' :: '{' :: '{' :: '{' :: '{' :: cs =>
    let (s, rest) := splitText count cs
    ('{' :: '{' :: '{' :: '{' :: s, rest)
  | '\\' :: '{' :: '{' :: cs =>
    let (s, rest) := splitText count cs
    ('{' :: '{' :: s, rest)
  | c :: cs =>
    if atBraces count (c :: cs) then ([], c :: cs)
    else if c == '\\' && cs.head? == some '\\' && atBraces 2 (cs.dropWhile (· == '\\')) then
      afterBackslashes count cs
    else
      let (s, rest) := splitText count cs
      (c :: s, rest)
where
  /-- The backslashes before braces, and what follows them. -/
  afterBackslashes (count : Nat) : List Char → List Char × List Char
    | '\\' :: cs =>
      let (s, rest) := afterBackslashes count cs
      ('\\' :: s, rest)
    | cs => ([], cs)

def cut? (size : Nat) : (steps : Nat) → List Char → Option (List Piece)
  | 0, _ => none
  | _ + 1, [] => some []
  | steps + 1, c :: cs =>
    if atBraces 2 (c :: cs) then
      match (Grammar.tag size).run (c :: cs) with
      | some (t, rest) => do some (.tag t :: (← cut? size steps rest))
      | none => do
        let (first, rest) ← (Grammar.rawOpen size).run (c :: cs)
        let (s, rest) := splitText 4 rest
        let (last, rest) ← Grammar.rawClose.run rest
        some (.tag first :: .text s :: .tag last :: (← cut? size steps rest))
    else
      let (s, rest) := splitText 2 (c :: cs)
      do some (.text s :: (← cut? size steps rest))

def isBlankInLine (c : Char) : Bool :=
  c == ' ' || c == '\t'

def isLineBreak (c : Char) : Bool :=
  c == '\n' || c == '\r'

/-- Whether a tag stands at the beginning of its line, blanks apart, if a text precedes it and
`before` tells that of the text. -/
def endsLine (before : Bool) (s : List Char) : Bool :=
  match trimEnd isBlankInLine s with
  | [] => before
  | s => (s.getLast?.map isLineBreak).getD false

/-- Whether a line ends before the next tag, blanks apart, or the template ends. -/
def lineEnds : List Piece → Bool
  | [] => true
  | .text s :: _ => ((trimStart isBlankInLine s).head?.map isLineBreak).getD false
  | .tag _ :: _ => false

def dropLineEnd (s : List Char) : List Char :=
  match trimStart isBlankInLine s with
  | '\r' :: '\n' :: rest => rest
  | '\n' :: rest => rest
  | rest => rest

/-- Changes the text before a tag, which is the last one so far. -/
def changeLast (f : List Char → List Char) : List Piece → List Piece
  | .text s :: done => .text (f s) :: done
  | done => done

def standsAlone : Tag → Bool
  | .output _ => false
  | _ => true

/-- What decides about the blanks of the next piece: whether it stands at the beginning of a line,
whether a tilde removes its blanks, and whether a tag has taken the end of its line. -/
structure Margin where
  atLineStart : Bool := true
  trimNext : Bool := false
  dropLine : Bool := false

/-- Removes the blanks around tags. `done` are the pieces so far, the last one first. -/
def trim (m : Margin) (done : List Piece) : List Piece → List Piece
  | [] => done.reverse
  | .text s :: rest =>
    let next := { m with atLineStart := endsLine m.atLineStart s }
    if m.trimNext then
      if s.all Parser.isGap then trim next done rest
      else trim { next with dropLine := false } (.text (trimStart isBlank s) :: done) rest
    else
      let s := if m.dropLine then dropLineEnd s else s
      trim { next with dropLine := false } (.text s :: done) rest
  | .tag t :: rest =>
    let done := if t.before then changeLast (trimEnd isBlank) done else done
    let alone := standsAlone t.tag && m.atLineStart && lineEnds rest
    let next : Margin := {
      atLineStart := false
      trimNext := match t.tag with
        | .comment => m.trimNext
        | _ => t.after
      dropLine := if standsAlone t.tag then alone else m.dropLine }
    trim next (.tag t :: if alone then changeLast (trimEnd isBlankInLine) done else done) rest

end Piece

/-- A block that is open: its helper, the nodes before it, the body once that is complete, and
whether it began after an `else` and so ends with the block around it. -/
structure OpenBlock where
  call : Call
  params : List String
  before : List Node
  body : Option (List Node) := none
  chained : Bool := false

namespace OpenBlock

def close (b : OpenBlock) (nodes : List Node) : Node :=
  match b.body with
  | some body => .block b.call b.params body (some nodes)
  | none => .block b.call b.params nodes none

def closeAll (name : String) (nodes : List Node) :
    List OpenBlock → Option (List OpenBlock × List Node)
  | [] => none
  | b :: outer =>
    if b.chained then closeAll name [b.close nodes] outer
    else
      match b.call with
      | .mk n _ _ => if n = name then some (outer, b.close nodes :: b.before) else none

end OpenBlock

/-- Matches the tags that open and close blocks. `current` are the nodes so far of the block that is
open, the last one first. -/
def nest? (stack : List OpenBlock) (current : List Node) : List Piece → Option (List Node)
  | [] => if stack.isEmpty then some current.reverse else none
  | .text s :: rest => nest? stack (.text s :: current) rest
  | .tag t :: rest =>
    match t.tag, stack with
    | .output shown, _ => nest? stack (.output shown :: current) rest
    | .comment, _ => nest? stack current rest
    | .open call params, _ => nest? ({ call, params, before := current } :: stack) [] rest
    | .otherwise, b :: outer =>
      if b.body.isSome then none
      else nest? ({ b with body := some current.reverse } :: outer) [] rest
    | .otherwiseOpen call params, b :: outer =>
      if b.body.isSome then none
      else
        let b := { b with body := some current.reverse }
        nest? ({ call, params, before := [], chained := true } :: b :: outer) [] rest
    | .close name, _ => do
      let (outer, current) ← OpenBlock.closeAll name current.reverse stack
      nest? outer current rest
    | .otherwise, [] | .otherwiseOpen _ _, [] => none

def parse? (template : List Char) : Option (List Node) := do
  let pieces ← Piece.cut? (template.length + 2) (template.length + 1) template
  nest? [] [] (Piece.trim {} [] pieces)

end Stencil.Blocks

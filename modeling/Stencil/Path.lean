import Stencil.Text.Search

/-!
# Paths

A path is a text of names between slashes. Joining, the parent and the extension are operations on
the text; they do not look at any file system.
-/

namespace Stencil

structure Path where
  chars : List Char
  deriving DecidableEq, Repr, Inhabited

namespace Path

def ofString (s : String) : Path :=
  ⟨s.toList⟩

def text (p : Path) : String :=
  String.ofList p.chars

def isEmpty (p : Path) : Bool :=
  p.chars.isEmpty

def isAbsolute (p : Path) : Bool :=
  p.chars.head? == some '/'

/-- The path of `q` as seen from `p`; an absolute `q` stands for itself. -/
def join (p q : Path) : Path :=
  if q.isAbsolute then q
  else if p.isEmpty || p.chars.getLast? == some '/' then ⟨p.chars ++ q.chars⟩
  else ⟨p.chars ++ '/' :: q.chars⟩

def pieces (p : Path) : List (List Char) :=
  splitOnChar '/' p.chars

/-- Whether a piece names a step: it is not empty and no dot, except for a dot at the beginning. -/
def isStep (piece : List Char) (leading : Bool) : Bool :=
  !piece.isEmpty && (piece != ['.'] || leading)

def steps (p : Path) : List (List Char) :=
  match p.pieces with
  | [] => []
  | first :: others =>
    (if isStep first true then [first] else []) ++ others.filter (isStep · false)

/-- The pieces, the last one first, without those at the end that name no step. -/
def trimPieces : List (List Char) → List (List Char)
  | [] => []
  | [first] => [first]
  | piece :: rest => if isStep piece false then piece :: rest else trimPieces rest

def parent? (p : Path) : Option Path :=
  match trimPieces p.pieces.reverse with
  | [] => none
  | [first] => if isStep first true then some ⟨[]⟩ else none
  | _ :: rest =>
    match trimPieces rest with
    | [[]] => some ⟨['/']⟩
    | kept => some ⟨joinWith ['/'] kept.reverse⟩

def fileName? (p : Path) : Option (List Char) :=
  match p.steps.getLast? with
  | none => none
  | some step => if step = ['.'] ∨ step = ['.', '.'] then none else some step

/-- What follows the last dot of a file name; a dot at its beginning does not count. -/
def extensionOf (name : List Char) : Option (List Char) :=
  let after := name.reverse.takeWhile (· != '.')
  let before := name.reverse.drop (after.length + 1)
  if before.isEmpty then none else some after.reverse

def extension? (p : Path) : Option (List Char) :=
  p.fileName?.bind extensionOf

end Path

end Stencil

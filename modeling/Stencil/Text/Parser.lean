import Stencil.Text.Search

/-!
# Parsers

Readers of text by ordered choice: of several alternatives the first one that fits counts.
-/

namespace Stencil

abbrev Parser := StateT (List Char) Option

namespace Parser

variable {α : Type}

def word (s : String) : Parser Unit := do
  match dropPrefix? s.toList (← get) with
  | some rest => set rest
  | none => failure

def isGap (c : Char) : Bool :=
  c == ' ' || c == '\t' || c == '\r' || c == '\n'

def gap : Parser Unit :=
  modify (·.dropWhile isGap)

def gap1 : Parser Unit := do
  match ← get with
  | c :: _ => if isGap c then gap else failure
  | [] => failure

def token (s : String) : Parser Unit := do
  gap
  word s

/-- Whether `p` fits; if so its text is taken. -/
def fits (p : Parser Unit) : Parser Bool :=
  (do p; pure true) <|> pure false

def taken (p : Parser Unit) : Parser (List Char) := do
  let before ← get
  p
  return before.take (before.length - (← get).length)

def manyWithin (p : Parser α) : (count : Nat) → Parser (List α)
  | 0 => pure []
  | count + 1 => do
    match ← optional p with
    | some a => return a :: (← manyWithin p count)
    | none => return []

/-- As many as fit; each takes at least one character. -/
def many (p : Parser α) : Parser (List α) := do
  manyWithin p ((← get).length + 1)

def span1 (p : Char → Bool) : Parser (List Char) := do
  let cs ← get
  let s := cs.takeWhile p
  if s.isEmpty then failure
  set (cs.dropWhile p)
  return s

end Parser

end Stencil

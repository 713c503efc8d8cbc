import Stencil.Statement.Grammar
import Stencil.Text.CharClass

/-!
# Reading templates

A template is a sequence of texts, outputs, comments and statements. A dash inside a tag's delimiter
removes the blanks of the text next to it.
-/

namespace Stencil.Statement

open Stencil.Parser Grammar

namespace Reader

def atTag : List Char → Bool
  | '{' :: c :: _ => c == '{' || c == '%' || c == '#'
  | _ => false

def splitText : List Char → List Char × List Char
  | [] => ([], [])
  | c :: cs =>
    if atTag (c :: cs) then ([], c :: cs)
    else
      let (text, rest) := splitText cs
      (c :: text, rest)

def text : Parser Node := do
  let (s, rest) := splitText (← get)
  if s.isEmpty then failure
  set rest
  return .text s

def opening (s : String) : Parser Bool := do
  word s
  fits (word "-")

def closing (s : String) : Parser Bool :=
  (do word ("-" ++ s); return true) <|> (do word s; return false)

/-- The text before a closing delimiter, whether that has a dash, and what follows it. -/
def splitAtClosing (mark : List Char) : List Char → Option (List Char × Bool × List Char)
  | [] => none
  | c :: cs =>
    match dropPrefix? ('-' :: mark) (c :: cs) with
    | some rest => some ([], true, rest)
    | none =>
      match dropPrefix? mark (c :: cs) with
      | some rest => some ([], false, rest)
      | none => (splitAtClosing mark cs).map fun (text, dash, rest) => (c :: text, dash, rest)

def comment : Parser Node := do
  let left ← opening r"{#"
  match splitAtClosing ['#', '}'] (← get) with
  | some (_ :: _, right, rest) =>
    set rest
    return .comment ⟨left, right⟩
  | _ => failure

def output (size : Nat) : Parser Node := do
  let left ← opening r"{{"
  gap
  let e ← logicOrArray size
  gap
  return .output ⟨left, ← closing r"}}"⟩ e

def bare (keyword : String) : Parser Trim := do
  let left ← opening r"{%"
  token keyword
  gap
  return ⟨left, ← closing r"%}"⟩

def withBody {α : Type} (keyword : String) (p : Parser α) : Parser (Trim × α) := do
  let left ← opening r"{%"
  token keyword
  gap1
  let a ← p
  gap
  return (⟨left, ← closing r"%}"⟩, a)

def assignment (size : Nat) (keyword : String) (everywhere : Bool) : Parser Node := do
  let (trim, n, e) ← withBody keyword do
    let n ← name
    token "="
    gap
    return (n, ← logicOrArray size)
  return .set trim everywhere n e

def loopHead (size : Nat) : Parser (Option String × String × Expr) := do
  let first ← name
  let second ← optional do
    word ","
    gap
    name
  gap1
  word "in"
  gap1
  let container ← filteredSum size <|> arrayExpr size
  return match second with
    | some second => (some first, second, container)
    | none => (none, first, container)

def includeBody : Parser Bool := do
  let list : Parser Unit := do
    word "["
    gap
    let _ ← optional do
      let _ ← quoted
      many do
        token ","
        gap
        quoted
    let _ ← optional (token ",")
    token "]"
  (do let _ ← quoted) <|> list
  fits do
    gap1
    word "ignore"
    gap1
    word "missing"

/-- Text up to the statement that ends it, which is given with its dashes. -/
def rawText : (count : Nat) → Parser (List Char × Trim)
  | 0 => failure
  | count + 1 => do
    match ← optional (bare "endraw") with
    | some trim => return ([], trim)
    | none =>
      match ← get with
      | [] => failure
      | c :: cs =>
        set cs
        let (text, trim) ← rawText count
        return (c :: text, trim)

mutual

/-- A node. Blocks stand outside loops, and a round of a loop ends early only inside one. Of several
alternatives to the body of a loop the last one counts. -/
def node (size : Nat) (inLoop : Bool) : (steps : Nat) → Parser Node
  | 0 => failure
  | steps + 1 =>
    text <|> comment <|> output size <|>
    (do
      let (trim, mayBeMissing) ← withBody "include" includeBody
      return .include trim mayBeMissing) <|>
    assignment size "set" false <|> assignment size "set_global" true <|>
    (do
      if inLoop then failure
      let (first, _) ← withBody "block" name
      let body ← nodes size false steps
      let left ← opening r"{%"
      token "endblock"
      gap
      let _ ← optional name
      gap
      let right ← closing r"%}"
      return .block first body ⟨left, right⟩) <|>
    (do
      let (first, c) ← withBody "filter" (call size <|> (do return .mk (← name) []))
      let body ← nodes size false steps
      return .filtered first c body (← bare "endfilter")) <|>
    (do
      let (first, key, value, container) ← withBody "for" (loopHead size)
      let body ← nodes size true steps
      let others ← many do
        let _ ← bare "else"
        nodes size true steps
      return .loop first key value container body (others.getLastD []) (← bare "endfor")) <|>
    (do
      let (trim, e) ← withBody "if" (logic size)
      let body ← nodes size inLoop steps
      let others ← many do
        let (trim, e) ← withBody "elif" (logic size)
        return (trim, e, ← nodes size inLoop steps)
      let otherwise ← optional do
        let trim ← bare "else"
        return (trim, ← nodes size inLoop steps)
      return .ifs ((trim, e, body) :: others) otherwise (← bare "endif")) <|>
    (do
      let first ← bare "raw"
      let (s, last) ← rawText ((← get).length + 1)
      return .raw first s last) <|>
    (do
      if !inLoop then failure
      (do return .break (← bare "break")) <|> (do return .continue (← bare "continue")))

def nodes (size : Nat) (inLoop : Bool) : (steps : Nat) → Parser (List Node)
  | 0 => failure
  | steps + 1 => many (node size inLoop steps)

end

end Reader

/-- The nodes without the blanks at the end of the last one, which is given first. -/
def trimLast : List Node → List Node
  | .text s :: rest =>
    let s := trimEnd isBlank s
    if s.isEmpty then rest else .text s :: rest
  | nodes => nodes

def Node.trimsBefore : Node → Bool
  | .text _ => false
  | .output t _ | .comment t | .set t _ _ _ | .include t _ | .break t | .continue t => t.left
  | .raw first _ _ | .loop first _ _ _ _ _ _ | .filtered first _ _ _ | .block first _ _ => first.left
  | .ifs ((t, _, _) :: _) _ _ => t.left
  | .ifs [] _ _ => false

def Node.trimsAfter : Node → Bool
  | .text _ => false
  | .output t _ | .comment t | .set t _ _ _ | .include t _ | .break t | .continue t => t.right
  | .raw _ _ last | .loop _ _ _ _ _ _ last | .filtered _ _ _ last | .block _ _ last
  | .ifs _ _ last => last.right

/-- Removes the blanks next to dashes in a sequence of nodes. `done` are the nodes so far, the last
one first, `trimNext` tells whether a dash stands right before the next node, and `atEnd` whether
one stands after all. -/
def trimSequence (atEnd : Bool) (done : List Node) (trimNext : Bool) : List Node → List Node
  | [] => (if atEnd then trimLast done else done).reverse
  | .text s :: rest =>
    let s := if trimNext then trimStart isBlank s else s
    trimSequence atEnd (if s.isEmpty then done else .text s :: done) false rest
  | n :: rest =>
    trimSequence atEnd (n :: if n.trimsBefore then trimLast done else done) n.trimsAfter rest

mutual

def Node.trimInside : Node → Node
  | .raw first s last =>
    let s := if first.right then trimStart isBlank s else s
    .raw first (if last.left then trimEnd isBlank s else s) last
  | .loop first key value container body ifEmpty last =>
    .loop first key value container (trimSequence last.left [] first.right (trimInsides body))
      ifEmpty last
  | .filtered first c body last =>
    .filtered first c (trimSequence last.left [] first.right (trimInsides body)) last
  | .block first body last =>
    .block first (trimSequence last.left [] first.right (trimInsides body)) last
  | .ifs branches none last => .ifs (trimBranches last.left branches) none last
  | .ifs branches (some (t, body)) last =>
    .ifs (trimBranches t.left branches)
      (some (t, trimSequence last.left [] t.right (trimInsides body))) last
  | n => n

def trimInsides : List Node → List Node
  | [] => []
  | n :: ns => n.trimInside :: trimInsides ns

/-- Removes the blanks in the branches of a condition; `after` tells whether a dash begins the tag
after the last one. -/
def trimBranches (after : Bool) :
    List (Trim × Expr × List Node) → List (Trim × Expr × List Node)
  | [] => []
  | (t, e, body) :: rest =>
    let atEnd := match rest with
      | (next, _, _) :: _ => next.left
      | [] => after
    (t, e, trimSequence atEnd [] t.right (trimInsides body)) :: trimBranches after rest

end

def parse? (template : List Char) : Option (List Node) := do
  let size := 24 * (template.length + 2)
  let (nodes, rest) ← (Reader.nodes size false (2 * template.length + 2)).run template
  if rest.isEmpty then some (trimSequence false [] false (trimInsides nodes)) else none

end Stencil.Statement

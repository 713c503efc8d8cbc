import Stencil.Model
import Stencil.Text.CharClass
import Stencil.Text.Search

/-!
# Tag shorthands

Inside an expression in double braces, `#tag` outside the string literals stands for the name of the
field of the primary model that carries the tag. If the shorthand is the whole expression, the name
takes the place of the expression, and else that of the shorthand. An expression that begins with
`#word` and goes on is a block helper and is left alone.
-/

namespace Stencil.Macro

def isQuote (c : Char) : Bool :=
  c == '"' || c == '\'' || c == '`'

def isTrimMark (c : Char) : Bool :=
  isBlank c || c == '~' || c == '-'

def wordLength (cs : List Char) : Nat :=
  (cs.takeWhile isWord).length

/-- The positions, counted from `i`, at which a `#` stands before a word character outside the
string literals; `quote` is the delimiter of the literal that is open. -/
def shorthandPositionsFrom (i : Nat) (quote : Option Char) : List Char → List Nat
  | [] => []
  | c :: cs =>
    match quote with
    | some q =>
      if c = '\\' then
        match cs with
        | [] => []
        | _ :: cs => shorthandPositionsFrom (i + 2) (some q) cs
      else shorthandPositionsFrom (i + 1) (if c = q then none else some q) cs
    | none =>
      if isQuote c then shorthandPositionsFrom (i + 1) (some c) cs
      else if c = '#' ∧ 0 < wordLength cs then i :: shorthandPositionsFrom (i + 1) none cs
      else shorthandPositionsFrom (i + 1) none cs

def shorthandPositions (body : List Char) : List Nat :=
  shorthandPositionsFrom 0 none body

/-- The position, counted from `i`, of the first `}}` outside the string literals; `escaped` tells
whether the character before was a backslash in the open literal. -/
def expressionEndFrom (i : Nat) (quote : Option Char) (escaped : Bool) : List Char → Option Nat
  | [] => none
  | c :: cs =>
    match quote with
    | some q =>
      if escaped then expressionEndFrom (i + 1) (some q) false cs
      else if c = '\\' then expressionEndFrom (i + 1) (some q) true cs
      else expressionEndFrom (i + 1) (if c = q then none else some q) false cs
    | none =>
      if isQuote c then expressionEndFrom (i + 1) (some c) false cs
      else if c = '}' ∧ cs.head? = some '}' then some i
      else expressionEndFrom (i + 1) none false cs

/-- The length of the body of an expression whose opening braces stand before `cs`. -/
def expressionEnd? (cs : List Char) : Option Nat :=
  expressionEndFrom 0 none false cs

def taggedFieldName? (model : Option Model) (tag : List Char) : Option (List Char) :=
  (model.bind (·.taggedField? (String.ofList tag))).map (·.name.toList)

def unresolved (model : Option Model) (tag : List Char) : Warning :=
  .noFieldForTag (String.ofList tag) ((model.map (·.name)).getD "")

/-- Replaces the shorthands at the given positions, which are counted from the beginning of the
body; `rest` is what remains of the body from position `cursor` on. -/
def replaceShorthands (model : Option Model) (cursor : Nat) (rest : List Char) :
    List Nat → List Char × List Warning
  | [] => (rest, [])
  | pos :: positions =>
    let before := rest.take (pos - cursor)
    let after := rest.drop (pos - cursor + 1)
    let tag := after.takeWhile isWord
    let (tail, warnings) :=
      replaceShorthands model (pos + 1 + tag.length) (after.dropWhile isWord) positions
    match taggedFieldName? model tag with
    | some name => (before ++ name ++ tail, warnings)
    | none => (before ++ '#' :: tag ++ tail, unresolved model tag :: warnings)

def rewriteExpression (model : Option Model) (body : List Char) : List Char × List Warning :=
  let expression (body : List Char) : List Char := r"{{".toList ++ body ++ r"}}".toList
  match shorthandPositions body with
  | [] => (expression body, [])
  | first :: others =>
    if (body.take first).all isTrimMark then
      let after := body.drop (first + 1)
      let tag := after.takeWhile isWord
      if (after.dropWhile isWord).all isTrimMark then
        match taggedFieldName? model tag with
        | some name => (name, [])
        | none => (expression body, [unresolved model tag])
      else (expression body, [])
    else
      let (rewritten, warnings) := replaceShorthands model 0 body (first :: others)
      (expression rewritten, warnings)

/-- Expands the shorthands of a template. From an expression that is never closed on, the text is
left as it is. -/
def expandShorthands (model : Option Model) (template : List Char) : List Char × List Warning :=
  match _h : cutAt? ['{', '{'] template with
  | none => (template, [])
  | some (before, rest) =>
    match expressionEnd? rest with
    | none => (template, [])
    | some bodyLength =>
      let (expression, warnings) := rewriteExpression model (rest.take bodyLength)
      let (tail, moreWarnings) := expandShorthands model (rest.drop (bodyLength + 2))
      (before ++ expression ++ tail, warnings ++ moreWarnings)
termination_by template.length
decreasing_by
  have := length_after_lt_of_cutAt? (by simp) _h
  simp only [List.length_drop]
  omega

end Stencil.Macro

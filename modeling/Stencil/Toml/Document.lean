import Stencil.Toml.Scalar

/-!
# TOML documents

A document is a sequence of statements: headers, and keys with values. The readers return what they
have read and the rest of the text.
-/

namespace Stencil.Toml

def maxDepth : Nat := 79

def lineBreak? : List Char → Option (List Char)
  | '\n' :: cs => some cs
  | '\r' :: '\n' :: cs => some cs
  | _ => none

def skipSpaces (cs : List Char) : List Char :=
  cs.dropWhile isSpace

def skipComment : List Char → List Char
  | '#' :: cs => cs.dropWhile isTextChar
  | cs => cs

/-- The end of a statement: blanks, a comment and a line break or the end of the document. -/
def statementEnd? (cs : List Char) : Option (List Char) :=
  match skipComment (skipSpaces cs) with
  | [] => some []
  | cs => lineBreak? cs

/-- Skips blanks, comments and line breaks; `inComment` tells whether a comment is being skipped. -/
def skipFiller (inComment : Bool) : List Char → List Char
  | [] => []
  | '\r' :: '\n' :: cs => skipFiller false cs
  | c :: cs =>
    if inComment && isTextChar c then skipFiller true cs
    else if isSpace c || c == '\n' then skipFiller false cs
    else if c == '#' then skipFiller true cs
    else c :: cs

def isBareChar (c : Char) : Bool :=
  c.isAlphanum || c == '-' || c == '_'

def simpleKey? : List Char → Option (String × List Char)
  | '"' :: cs => (basicString [] cs).map fun (s, rest) => (String.ofList s, rest)
  | '\'' :: cs => (literalString [] cs).map fun (s, rest) => (String.ofList s, rest)
  | cs =>
    let name := cs.takeWhile isBareChar
    if name.isEmpty then none else some (String.ofList name, cs.dropWhile isBareChar)

def key? : (count : Nat) → List Char → Option (List String × List Char)
  | 0, _ => none
  | count + 1, cs => do
    let (part, rest) ← simpleKey? (skipSpaces cs)
    match skipSpaces rest with
    | '.' :: rest =>
      let (parts, rest) ← key? count rest
      pure (part :: parts, rest)
    | rest => pure ([part], rest)

def splitKey (parts : List String) : List String × String :=
  (parts.dropLast, parts.getLastD "")

/-- The text of a scalar that is not in quotes. A blank belongs to it between a date and a time. -/
def scalarText (cs : List Char) : List Char × List Char :=
  let isScalarChar (c : Char) : Bool :=
    c.isAlphanum || c == '+' || c == '-' || c == '_' || c == '.' || c == ':'
  let first := cs.takeWhile isScalarChar
  let rest := cs.dropWhile isScalarChar
  match rest with
  | ' ' :: more =>
    let second := more.takeWhile isScalarChar
    if (date? first).isSome && (time? second).isSome then
      (first ++ ' ' :: second, more.dropWhile isScalarChar)
    else (first, rest)
  | _ => (first, rest)

/-- Items up to a closing bracket, each read by `item`; at most `count` of them. -/
def arrayItems (item : List Char → Option (Value × List Char)) :
    (count : Nat) → List Char → Option (List Value × List Char)
  | 0, _ => none
  | count + 1, cs =>
    match skipFiller false cs with
    | ']' :: rest => some ([], rest)
    | cs => do
      let (v, rest) ← item cs
      match skipFiller false rest with
      | ',' :: rest =>
        let (vs, rest) ← arrayItems item count rest
        pure (v :: vs, rest)
      | ']' :: rest => pure ([v], rest)
      | _ => none

def keyValue (item : List Char → Option (Value × List Char)) (cs : List Char) :
    Option ((List String × Value) × List Char) := do
  let (parts, rest) ← key? maxDepth cs
  match rest with
  | '=' :: rest =>
    let (v, rest) ← item (skipSpaces rest)
    pure ((parts, v), rest)
  | _ => none

/-- The entries of an inline table up to its closing brace, at most `count` of them. -/
def inlineEntries (item : List Char → Option (Value × List Char)) :
    (count : Nat) → List Char → Option (List (List String × Value) × List Char)
  | 0, _ => none
  | count + 1, cs => do
    let (entry, rest) ← keyValue item cs
    match skipSpaces rest with
    | ',' :: rest =>
      let (entries, rest) ← inlineEntries item count rest
      pure (entry :: entries, rest)
    | '}' :: rest => pure ([entry], rest)
    | _ => none

def addEntries (t : Table) (entries : List (List String × Value)) : Option Table :=
  entries.foldlM (fun t (parts, v) => t.addAt (splitKey parts).1 (splitKey parts).2 v) t

def value? : (depth : Nat) → List Char → Option (Value × List Char)
  | depth, cs =>
    let text (x : Option (List Char × List Char)) : Option (Value × List Char) :=
      x.map fun (s, rest) => (.text (String.ofList s), rest)
    match cs with
    | '"' :: '"' :: '"' :: rest => text (basicLines [] .no (dropLineBreak rest))
    | '"' :: rest => text (basicString [] rest)
    | '\'' :: '\'' :: '\'' :: rest => text (literalLines [] (dropLineBreak rest))
    | '\'' :: rest => text (literalString [] rest)
    | '[' :: rest =>
      match depth with
      | 0 => none
      | depth + 1 => do
        let (vs, rest) ← arrayItems (value? depth) (rest.length + 1) rest
        pure (.array vs, rest)
    | '{' :: rest =>
      match depth with
      | 0 => none
      | depth + 1 =>
        match skipSpaces rest with
        | '}' :: rest => some (.table [], rest)
        | rest => do
          let (entries, rest) ← inlineEntries (value? depth) (rest.length + 1) rest
          pure ((← addEntries (.empty .explicit) entries).toValue, rest)
    | _ =>
      let (first, rest) := scalarText cs
      (scalarOf? first).map (·, rest)

inductive Statement where
  | openTable (path : List String)
  | openElement (path : List String)
  | entry (path : List String) (v : Value)

def statement? : List Char → Option (Statement × List Char)
  | '[' :: '[' :: cs => do
    let (path, rest) ← key? maxDepth cs
    match rest with
    | ']' :: ']' :: rest => pure (.openElement path, rest)
    | _ => none
  | '[' :: cs => do
    let (path, rest) ← key? maxDepth cs
    match rest with
    | ']' :: rest => pure (.openTable path, rest)
    | _ => none
  | cs => do
    let ((path, v), rest) ← keyValue (value? maxDepth) cs
    pure (.entry path v, rest)

def statements? : (count : Nat) → List Char → Option (List Statement)
  | 0, _ => none
  | count + 1, cs =>
    match skipFiller false cs with
    | [] => some []
    | cs => do
      let (s, rest) ← statement? cs
      pure (s :: (← statements? count (← statementEnd? rest)))

/-- A document while it is being filled: its table, and the path of the table that was opened
last. -/
structure Building where
  root : Table
  current : List String

def Building.step (b : Building) : Statement → Option Building
  | .openTable path => do
    let (parents, key) := splitKey path
    pure ⟨← b.root.modifyAt .passed (Table.openTable key) parents, path⟩
  | .openElement path => do
    let (parents, key) := splitKey path
    pure ⟨← b.root.modifyAt .passed (Table.openElement key) parents, path⟩
  | .entry path v => do
    let (parents, key) := splitKey path
    let root ← b.root.modifyAt .passed (Table.addAt parents key v) b.current
    pure { b with root }

def parse? (text : List Char) : Option Value := do
  let text := (dropPrefix? ['\uFEFF'] text).getD text
  let statements ← statements? (text.length + 1) text
  let b ← statements.foldlM Building.step ⟨.empty .explicit, []⟩
  pure b.root.toValue

end Stencil.Toml

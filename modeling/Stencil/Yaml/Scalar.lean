import Stencil.Yaml.Token

/-!
# YAML scalars

The texts of plain, quoted and block scalars. Each reader gives the text, and the position and the
text after the scalar; it fails where the scalar is not well formed.
-/

namespace Stencil.Yaml

structure Read where
  text : String
  mark : Mark
  rest : List Char
  /-- Whether line breaks were skipped after the scalar. -/
  crossedLine : Bool := false

/-- Blanks and line breaks inside a scalar whose meaning depends on what follows. -/
structure Pending where
  blanks : String := ""
  crossed : Bool := false
  firstBreak : String := ""
  otherBreaks : String := ""

namespace Pending

def isNothing (p : Pending) : Bool :=
  p.blanks == "" && !p.crossed

def blank (p : Pending) (c : Char) : Pending :=
  if p.crossed then p else { p with blanks := p.blanks.push c }

def lineBreak (p : Pending) (c : Char) : Pending :=
  if p.crossed then { p with otherBreaks := p.otherBreaks ++ breakText c }
  else { p with blanks := "", crossed := true, firstBreak := breakText c }

/-- What stands for the pending blanks before the next character: a single line break is a blank, of
several the first one is dropped. -/
def fold (p : Pending) : String :=
  if p.crossed then
    if p.firstBreak == "\n" then
      if p.otherBreaks == "" then " " else p.otherBreaks
    else p.firstBreak ++ p.otherBreaks
  else p.blanks

end Pending

def endsPlain (flow : Bool) (c : Char) (rest : List Char) : Bool :=
  (c == ':' && atGap rest) ||
    (flow && (c == ',' || c == '[' || c == ']' || c == '{' || c == '}'))

def isStrayColon (flow : Bool) (c : Char) (rest : List Char) : Bool :=
  flow && c == ':' &&
    match rest with
    | d :: _ => d == ',' || d == '?' || d == '[' || d == ']' || d == '{' || d == '}'
    | [] => false

def plain (flow : Bool) (indent : Nat) (text : String) (p : Pending) (m : Mark) :
    List Char → Option Read
  | [] => some { text, mark := m, rest := [], crossedLine := p.crossed }
  | '\r' :: '\n' :: cs => plain flow indent text (p.lineBreak '\n') (m.nextLine 2) cs
  | c :: cs =>
    if isBreak c then plain flow indent text (p.lineBreak c) (m.nextLine 1) cs
    else if isSpace c then
      if p.crossed && m.column < indent && c == '\t' then none
      else plain flow indent text (p.blank c) m.next cs
    else
      let afterGap := !p.isNothing
      let stop :=
        afterGap && ((!flow && m.column < indent && p.crossed) || c == '#' ||
          (m.column == 0 && atDocumentMark (c :: cs)))
      if stop then some { text, mark := m, rest := c :: cs, crossedLine := p.crossed }
      else if isStrayColon flow c cs then none
      else if endsPlain flow c cs then
        some { text, mark := m, rest := c :: cs, crossedLine := p.crossed }
      else plain flow indent ((text ++ p.fold).push c) {} m.next cs

def singleQuoted (text : String) (p : Pending) (m : Mark) : List Char → Option Read
  | [] => none
  | '\r' :: '\n' :: cs => singleQuoted text (p.lineBreak '\n') (m.nextLine 2) cs
  | '\'' :: '\'' :: cs => singleQuoted ((text ++ p.fold).push '\'') {} (m.skip 2) cs
  | c :: cs =>
    if isBreak c then singleQuoted text (p.lineBreak c) (m.nextLine 1) cs
    else if isSpace c then singleQuoted text (p.blank c) m.next cs
    else if m.column == 0 && atDocumentMark (c :: cs) then none
    else if c == '\'' then some { text := text ++ p.fold, mark := m.next, rest := cs }
    else singleQuoted ((text ++ p.fold).push c) {} m.next cs

def hexDigit? (c : Char) : Option Nat :=
  if c.isDigit then some (c.toNat - '0'.toNat)
  else if 'a' ≤ c ∧ c ≤ 'f' then some (c.toNat - 'a'.toNat + 10)
  else if 'A' ≤ c ∧ c ≤ 'F' then some (c.toNat - 'A'.toNat + 10)
  else none

def charOfHex? (digits : List Char) : Option Char := do
  let ds ← digits.mapM hexDigit?
  let n := ds.foldl (fun n d => n * 16 + d) 0
  if h : n.isValidChar then some (Char.ofNatAux n h) else none

def escape? : Char → Option Char
  | '0' => some '\x00'
  | 'a' => some '\x07'
  | 'b' => some '\x08'
  | 't' => some '\t'
  | '\t' => some '\t'
  | 'n' => some '\n'
  | 'v' => some '\x0b'
  | 'f' => some '\x0c'
  | 'r' => some '\r'
  | 'e' => some '\x1b'
  | ' ' => some ' '
  | '"' => some '"'
  | '/' => some '/'
  | '\\' => some '\\'
  | 'N' => some '\u0085'
  | '_' => some '\u00a0'
  | 'L' => some '\u2028'
  | 'P' => some '\u2029'
  | _ => none

/-- A scalar in double quotes, from the character after the first one. An escaped line break is
dropped. -/
def doubleQuoted (text : String) (p : Pending) (m : Mark) : List Char → Option Read
  | [] => none
  | '\r' :: '\n' :: cs => doubleQuoted text (p.lineBreak '\n') (m.nextLine 2) cs
  | '\\' :: '\r' :: '\n' :: cs =>
    doubleQuoted (text ++ p.fold) { crossed := true } (m.next.nextLine 2) cs
  | '\\' :: 'x' :: a :: b :: cs =>
    match charOfHex? [a, b] with
    | some x => doubleQuoted ((text ++ p.fold).push x) {} (m.skip 4) cs
    | none => none
  | '\\' :: 'u' :: a :: b :: c :: d :: cs =>
    match charOfHex? [a, b, c, d] with
    | some x => doubleQuoted ((text ++ p.fold).push x) {} (m.skip 6) cs
    | none => none
  | '\\' :: 'U' :: a :: b :: c :: d :: e :: f :: g :: h :: cs =>
    match charOfHex? [a, b, c, d, e, f, g, h] with
    | some x => doubleQuoted ((text ++ p.fold).push x) {} (m.skip 10) cs
    | none => none
  | '\\' :: c :: cs =>
    if isBreak c then doubleQuoted (text ++ p.fold) { crossed := true } (m.next.nextLine 1) cs
    else
      match escape? c with
      | some x => doubleQuoted ((text ++ p.fold).push x) {} (m.skip 2) cs
      | none => none
  | c :: cs =>
    if isBreak c then doubleQuoted text (p.lineBreak c) (m.nextLine 1) cs
    else if isSpace c then doubleQuoted text (p.blank c) m.next cs
    else if m.column == 0 && atDocumentMark (c :: cs) then none
    else if c == '"' then some { text := text ++ p.fold, mark := m.next, rest := cs }
    else if c == '\\' then none
    else doubleQuoted ((text ++ p.fold).push c) {} m.next cs

/-- The header of a block scalar: whether the line breaks at its end are kept (`some true`), dropped
(`some false`) or only the first one kept, and how many columns it is indented further. -/
structure BlockHeader where
  keepBreaks : Option Bool := none
  increment : Nat := 0

def chomping? : Char → Option Bool
  | '+' => some true
  | '-' => some false
  | _ => none

def blockHeader (m : Mark) : List Char → Option (BlockHeader × Mark × List Char)
  | [] => some ({}, m, [])
  | c :: cs =>
    let digit (c : Char) : Bool := '1' ≤ c && c ≤ '9'
    let value (c : Char) : Nat := c.toNat - '0'.toNat
    match chomping? c, cs with
    | some keep, d :: ds =>
      if d == '0' then none
      else if digit d then some ({ keepBreaks := some keep, increment := value d }, m.skip 2, ds)
      else some ({ keepBreaks := some keep }, m.next, cs)
    | some keep, [] => some ({ keepBreaks := some keep }, m.next, [])
    | none, _ =>
      if c == '0' then none
      else if digit c then
        match cs with
        | d :: ds =>
          match chomping? d with
          | some keep => some ({ keepBreaks := some keep, increment := value c }, m.skip 2, ds)
          | none => some ({ increment := value c }, m.next, cs)
        | [] => some ({ increment := value c }, m.next, cs)
      else some ({}, m, c :: cs)

/-- Skips blanks, a comment and the end of the line; anything else is refused. -/
def restOfLine (inComment : Bool) (m : Mark) : List Char → Option (Mark × List Char)
  | [] => some (m, [])
  | '\r' :: '\n' :: cs => some (m.nextLine 2, cs)
  | c :: cs =>
    if isBreak c then some (m.nextLine 1, cs)
    else if inComment then restOfLine true m.next cs
    else if isSpace c then restOfLine false m.next cs
    else if c == '#' then restOfLine true m.next cs
    else none

structure Gap where
  breaks : String
  /-- The greatest column that was reached. -/
  widest : Nat
  mark : Mark
  rest : List Char

/-- Skips the indentation of a line and empty lines; `indent` is zero while it is not known. -/
def blockGap (indent : Nat) (breaks : String) (widest : Nat) (m : Mark) : List Char → Option Gap
  | [] => some { breaks, widest := max widest m.column, mark := m, rest := [] }
  | '\r' :: '\n' :: cs =>
    blockGap indent (breaks ++ "\n") (max widest m.column) (m.nextLine 2) cs
  | c :: cs =>
    let indenting := indent == 0 || m.column < indent
    if indenting && c == ' ' then blockGap indent breaks widest m.next cs
    else if indenting && c == '\t' then none
    else if isBreak c then
      blockGap indent (breaks ++ breakText c) (max widest m.column) (m.nextLine 1) cs
    else some { breaks, widest := max widest m.column, mark := m, rest := c :: cs }

/-- The break at the beginning of a text, with the position and the text after it. -/
def takeBreak (m : Mark) : List Char → String × Mark × List Char
  | '\r' :: '\n' :: cs => ("\n", m.nextLine 2, cs)
  | c :: cs => if isBreak c then (breakText c, m.nextLine 1, cs) else ("", m, c :: cs)
  | [] => ("", m, [])

/-- The lines of a block scalar, at most `count` of them. A folded scalar turns a single line break
between two lines that begin with no blank into a blank. -/
def blockLines (literal : Bool) (header : BlockHeader) (indent : Nat) :
    (count : Nat) → (text lineBreak breaks : String) → (indented : Bool) → Mark → List Char →
    Option Read
  | 0, _, _, _, _, _, _ => none
  | count + 1, text, lineBreak, breaks, indented, m, cs =>
    if m.column == indent && !cs.isEmpty then
      let beginsBlank := (cs.head?.map isSpace).getD false
      let joint :=
        if !literal && lineBreak == "\n" && !indented && !beginsBlank then
          if breaks == "" then " " else breaks
        else lineBreak ++ breaks
      let line := cs.takeWhile (!isBreak ·)
      let (nextBreak, m, cs) := takeBreak (m.skip line.length) (cs.dropWhile (!isBreak ·))
      match blockGap indent "" 0 m cs with
      | none => none
      | some gap =>
        blockLines literal header indent count (text ++ joint ++ String.ofList line) nextBreak
          gap.breaks beginsBlank gap.mark gap.rest
    else
      let text := if header.keepBreaks = some false then text else text ++ lineBreak
      let text := if header.keepBreaks = some true then text ++ breaks else text
      some { text, mark := m, rest := cs }

/-- A block scalar from the character after its sign, in a block that is indented by `indent`, with
`-1` for the outermost level. -/
def blockScalar (literal : Bool) (indent : Int) (m : Mark) (cs : List Char) : Option Read := do
  let (header, m, cs) ← blockHeader m cs
  let (m, cs) ← restOfLine false m cs
  let known := if header.increment = 0 then 0 else header.increment + indent.toNat
  let gap ← blockGap known "" 0 m cs
  let level := if known = 0 then max (max gap.widest (indent + 1).toNat) 1 else known
  blockLines literal header level (gap.rest.length + 1) "" "" gap.breaks false gap.mark gap.rest

end Stencil.Yaml

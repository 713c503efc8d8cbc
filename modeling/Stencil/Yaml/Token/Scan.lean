import Stencil.Yaml.Scalar

/-!
# Scanning YAML

A text is cut into tokens from the left to the right. The indentation of blocks becomes tokens for
their starts and ends, and what turns out to be a key, because a colon follows it, gets its token
where it began.
-/

namespace Stencil.Yaml

structure KeyStart where
  /-- Whether nothing else may begin there. -/
  required : Bool
  /-- The number of tokens before it. -/
  tokens : Nat
  mark : Mark
  deriving Repr, Inhabited

structure Scan where
  rest : List Char
  mark : Mark := {}
  tokens : Array Token := #[]
  /-- The indentation of the innermost block, `-1` outside of blocks. -/
  indent : Int := -1
  /-- The indentation of the blocks around it, the innermost first. -/
  outer : List Int := []
  /-- The place where a key may have begun, for the document and for each open flow collection, the
  innermost first. -/
  keys : List (Option KeyStart) := [none]
  /-- Whether a key may begin here. -/
  keyAllowed : Bool := true

namespace Scan

def inFlow (s : Scan) : Bool :=
  s.keys.length > 1

def emit (s : Scan) (t : Token) : Scan :=
  { s with tokens := s.tokens.push t }

def insertAt (s : Scan) (i : Nat) (t : Token) : Scan :=
  { s with tokens := s.tokens.extract 0 i ++ #[t] ++ s.tokens.extract i s.tokens.size }

def advance (s : Scan) (n : Nat) : Scan :=
  { s with rest := s.rest.drop n, mark := s.mark.skip n }

def goTo (s : Scan) (m : Mark) (rest : List Char) : Scan :=
  { s with mark := m, rest }

/-- Gives up the key that may have begun; a required one has to turn out to be one. -/
def dropKey (s : Scan) : Option Scan :=
  match s.keys with
  | some k :: ks => if k.required then none else some { s with keys := none :: ks }
  | _ => some s

def noteKey (s : Scan) : Option Scan :=
  if s.keyAllowed then do
    let s ← s.dropKey
    let start : KeyStart :=
      { required := !s.inFlow && s.indent == s.mark.column
        tokens := s.tokens.size
        mark := s.mark }
    pure { s with keys := some start :: s.keys.drop 1 }
  else some s

def dropStaleKeys (s : Scan) : Option Scan := do
  let keys ← s.keys.mapM fun k =>
    match k with
    | none => some none
    | some k =>
      if k.mark.line < s.mark.line || k.mark.index + 1024 < s.mark.index then
        if k.required then none else some none
      else some (some k)
  pure { s with keys }

/-- Opens a block at a column that is further indented, with its token at `position`. -/
def openBlock (s : Scan) (column position : Nat) (t : Token) : Scan :=
  if !s.inFlow && s.indent < column then
    { s.insertAt position t with indent := column, outer := s.indent :: s.outer }
  else s

def closeBlocks (s : Scan) (column : Int) : Scan :=
  if s.inFlow then s
  else
    let rec close : Int → List Int → Array Token → Int × List Int × Array Token
      | indent, [], tokens => (indent, [], tokens)
      | indent, o :: os, tokens =>
        if indent > column then close o os (tokens.push .blockEnd) else (indent, o :: os, tokens)
    let (indent, outer, tokens) := close s.indent s.outer s.tokens
    { s with indent, outer, tokens }

/-- Skips blanks, comments and line breaks. Tabs are no blanks where a key may begin in a block. -/
def skipGap (flow keyAllowed inComment : Bool) (m : Mark) : List Char → Bool × Mark × List Char
  | [] => (keyAllowed, m, [])
  | '\r' :: '\n' :: cs => skipGap flow (keyAllowed || !flow) false (m.nextLine 2) cs
  | c :: cs =>
    if isBreak c then skipGap flow (keyAllowed || !flow) false (m.nextLine 1) cs
    else if inComment then skipGap flow keyAllowed true m.next cs
    else if c == ' ' || (c == '\t' && (flow || !keyAllowed)) then
      skipGap flow keyAllowed false m.next cs
    else if c == '#' then skipGap flow keyAllowed true m.next cs
    else (keyAllowed, m, c :: cs)

def blockEntry (s : Scan) : Option Scan := do
  let s ←
    if s.inFlow then some s
    else if !s.keyAllowed then none
    else some (s.openBlock s.mark.column s.tokens.size .blockSequenceStart)
  let s ← s.dropKey
  pure ({ s with keyAllowed := true }.emit .blockEntry |>.advance 1)

/-- The sign before a key that is not a simple one. -/
def keySign (s : Scan) : Option Scan := do
  let s ←
    if s.inFlow then some s
    else if !s.keyAllowed then none
    else some (s.openBlock s.mark.column s.tokens.size .blockMappingStart)
  let s ← s.dropKey
  pure ({ s with keyAllowed := !s.inFlow }.emit .key |>.advance 1)

def valueSign (s : Scan) : Option Scan :=
  match s.keys with
  | some k :: ks =>
    let s := s.insertAt k.tokens .key
    let s := s.openBlock k.mark.column k.tokens .blockMappingStart
    some ({ s with keys := none :: ks, keyAllowed := false }.emit .value |>.advance 1)
  | _ => do
    let s ←
      if s.inFlow then some s
      else if !s.keyAllowed then none
      else some (s.openBlock s.mark.column s.tokens.size .blockMappingStart)
    pure ({ s with keyAllowed := !s.inFlow }.emit .value |>.advance 1)

def openFlow (s : Scan) (t : Token) : Option Scan := do
  let s ← s.noteKey
  pure ({ s with keys := none :: s.keys, keyAllowed := true }.emit t |>.advance 1)

def closeFlow (s : Scan) (t : Token) : Option Scan := do
  let s ← s.dropKey
  let keys := if s.inFlow then s.keys.drop 1 else s.keys
  pure ({ s with keys, keyAllowed := false }.emit t |>.advance 1)

def flowEntry (s : Scan) : Option Scan := do
  let s ← s.dropKey
  pure ({ s with keyAllowed := true }.emit .flowEntry |>.advance 1)

def documentMark (s : Scan) (t : Token) : Option Scan := do
  let s ← (s.closeBlocks (-1)).dropKey
  pure ({ s with keyAllowed := false }.emit t |>.advance 3)

def nameToken (s : Scan) (make : String → Token) : Option Scan := do
  let s ← s.noteKey
  let name := (s.rest.drop 1).takeWhile isNameChar
  let after := (s.rest.drop 1).dropWhile isNameChar
  let ends := atGap after || ((after.head?.map (r"?:,]}%@`".contains ·)).getD false)
  if name.isEmpty || !ends then none
  else
    let s := { s with keyAllowed := false }.emit (make (String.ofList name))
    pure (s.advance (name.length + 1))

/-- The characters of tags; some only count where the tag is in angle brackets. -/
def isTagChar (bracketed : Bool) (c : Char) : Bool :=
  isNameChar c || ";/?:@&=+$.!~*'()".contains c || (bracketed && ",[]".contains c)

/-- The bytes that the characters of a tag stand for, where `%` and two digits stand for one. -/
def tagBytes : List Char → Option ByteArray
  | [] => some .empty
  | '%' :: a :: b :: cs => do
    let high ← hexDigit? a
    let low ← hexDigit? b
    let rest ← tagBytes cs
    pure (⟨#[UInt8.ofNat (high * 16 + low)]⟩ ++ rest)
  | '%' :: _ => none
  | c :: cs => do pure (c.toString.toUTF8 ++ (← tagBytes cs))

def tagPart? (bracketed : Bool) (cs : List Char) : Option (String × Nat) := do
  let part := cs.takeWhile fun c => isTagChar bracketed c || c == '%'
  pure (← String.fromUTF8? (← tagBytes part), part.length)

def tag? (cs : List Char) : Option (Tag × Nat) :=
  match cs with
  | _ :: '<' :: cs => do
    let (suffix, n) ← tagPart? true cs
    if n = 0 ∨ (cs.drop n).head? ≠ some '>' then none else pure (⟨"", suffix⟩, n + 3)
  | _ :: cs => do
    let name := cs.takeWhile isNameChar
    match cs.dropWhile isNameChar with
    | '!' :: after =>
      let (suffix, n) ← tagPart? false after
      if n = 0 then none
      else pure (⟨"!" ++ String.ofList name ++ "!", suffix⟩, name.length + n + 2)
    | after =>
      let (suffix, n) ← tagPart? false after
      let suffix := String.ofList name ++ suffix
      pure (if suffix = "" then ⟨"", "!"⟩ else ⟨"!", suffix⟩, name.length + n + 1)
  | [] => none

def tagToken (s : Scan) : Option Scan := do
  let s ← s.noteKey
  let (t, n) ← tag? s.rest
  let after := s.rest.drop n
  if atGap after || (s.inFlow && after.head? == some ',') then
    pure ({ s with keyAllowed := false }.emit (.tag t) |>.advance n)
  else none

def versionNumber? (cs : List Char) : Option (Nat × List Char) :=
  let digits := cs.takeWhile Char.isDigit
  if digits.isEmpty || digits.length > 9 then none
  else some ((String.ofList digits).toNat!, cs.dropWhile Char.isDigit)

def directive? (cs : List Char) : Option (Token × List Char) := do
  let name := cs.takeWhile isNameChar
  let after := (cs.dropWhile isNameChar).dropWhile isSpace
  if !atGap (cs.dropWhile isNameChar) then none
  else if name = "YAML".toList then
    let (major, after) ← versionNumber? after
    match after with
    | '.' :: after =>
      let (minor, after) ← versionNumber? after
      pure (.version major minor, after)
    | _ => none
  else if name = "TAG".toList then
    match after with
    | '!' :: after =>
      let inner := after.takeWhile isNameChar
      let (handle, after) ← match after.dropWhile isNameChar with
        | '!' :: after => some ("!" ++ String.ofList inner ++ "!", after)
        | after => if inner.isEmpty then some ("!", after) else none
      if !(after.head?.map isSpace).getD false then none
      else
        let after := after.dropWhile isSpace
        let (meaning, n) ← tagPart? true after
        if n = 0 ∨ !atGap (after.drop n) then none
        else pure (.tagDirective handle meaning, after.drop n)
    | _ => none
  else none

def directiveToken (s : Scan) : Option Scan := do
  let s ← (s.closeBlocks (-1)).dropKey
  let (t, after) ← directive? (s.rest.drop 1)
  let m := s.mark.skip (s.rest.length - after.length)
  let (m, rest) ← restOfLine false m after
  pure ({ s with keyAllowed := false }.emit t |>.goTo m rest)

def scalarToken (s : Scan) (style : Style) (keyAllowed : Bool) (r : Read) : Scan :=
  { s with keyAllowed }.emit (.scalar r.text style) |>.goTo r.mark r.rest

def plainToken (s : Scan) : Option Scan := do
  let s ← s.noteKey
  let r ← plain s.inFlow (s.indent + 1).toNat "" {} s.mark s.rest
  pure (s.scalarToken .plain r.crossedLine r)

def quotedToken (s : Scan) (read : Mark → List Char → Option Read) : Option Scan := do
  let s ← s.noteKey
  let r ← read s.mark.next (s.rest.drop 1)
  pure (s.scalarToken .quoted false r)

def blockToken (s : Scan) (literal : Bool) : Option Scan := do
  let s ← s.dropKey
  let r ← blockScalar literal s.indent s.mark.next (s.rest.drop 1)
  pure (s.scalarToken (if literal then .literal else .folded) true r)

def beginsPlain (flow : Bool) (c : Char) (cs : List Char) : Bool :=
  if c == '-' then !((cs.head?.map isSpace).getD false)
  else if c == '?' || c == ':' then !flow && !atGap cs
  else !isSpace c && !(r#"?:,[]{}#&*!|>'"%@`"#.contains c)

def nextToken (s : Scan) : Option Scan :=
  match s.rest with
  | [] => none
  | c :: cs =>
    let gapAfter := atGap cs
    if s.mark.column == 0 && c == '%' then s.directiveToken
    else if s.mark.column == 0 && atDocumentMark s.rest then
      s.documentMark (if c == '-' then .documentStart else .documentEnd)
    else if c == '[' then s.openFlow .flowSequenceStart
    else if c == '{' then s.openFlow .flowMappingStart
    else if c == ']' then s.closeFlow .flowSequenceEnd
    else if c == '}' then s.closeFlow .flowMappingEnd
    else if c == ',' then s.flowEntry
    else if c == '-' && gapAfter then s.blockEntry
    else if c == '?' && (s.inFlow || gapAfter) then s.keySign
    else if c == ':' && (s.inFlow || gapAfter) then s.valueSign
    else if c == '*' then s.nameToken .alias
    else if c == '&' then s.nameToken .anchor
    else if c == '!' then s.tagToken
    else if c == '|' && !s.inFlow then s.blockToken true
    else if c == '>' && !s.inFlow then s.blockToken false
    else if c == '\'' then s.quotedToken (singleQuoted "" {})
    else if c == '"' then s.quotedToken (doubleQuoted "" {})
    else if beginsPlain s.inFlow c cs then s.plainToken
    else none

/-- The byte order mark. At the beginning of a text it counts as a blank. -/
def byteOrderMark : Char := '\uFEFF'

def ofText (text : List Char) : Scan :=
  if text.head? = some byteOrderMark then { rest := text.drop 1, mark := Mark.next {} }
  else { rest := text }

/-- Scans the rest of a text into at most `count` tokens and those that blocks add. -/
def run : (count : Nat) → Scan → Option (Array Token)
  | 0, _ => none
  | count + 1, s => do
    let (keyAllowed, mark, rest) := skipGap s.inFlow s.keyAllowed false s.mark s.rest
    let s ← { s with keyAllowed, mark, rest }.dropStaleKeys
    match rest with
    | [] =>
      let s ← (s.closeBlocks (-1)).dropKey
      pure s.tokens
    | _ => run count (← (s.closeBlocks mark.column).nextToken)

end Scan

def Token.scan? (text : List Char) : Option (List Token) :=
  if text.all isAllowed then (Scan.run (text.length + 1) (Scan.ofText text)).map Array.toList else none

end Stencil.Yaml

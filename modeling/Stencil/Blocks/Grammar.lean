import Stencil.Blocks.Syntax
import Stencil.Json.Notation

/-!
# The grammar of tags

Paths, arguments and the tags of block templates. `steps` bounds the depth of the descent.
-/

namespace Stencil.Blocks

inductive Tag where
  | output (shown : Shown)
  | open (c : Call) (params : List String)
  | otherwise
  | otherwiseOpen (c : Call) (params : List String)
  | close (name : String)
  | comment
  deriving Inhabited

/-- A tag with what its tildes remove: the blanks before it and after it. -/
structure Trimmed where
  before : Bool
  after : Bool
  tag : Tag
  deriving Inhabited

namespace Grammar

open Stencil.Parser

def isSymbol (c : Char) : Bool :=
  c.isAlphanum || c == '_' || c == '-' || c == '$' || c == ':' || c.toNat ≥ 0x80

def identifier : Parser String := do
  return String.ofList (← span1 isSymbol)

def atSymbolEnd : Parser Unit := do
  match ← get with
  | c :: _ => if isSymbol c then failure
  | [] => pure ()

def separator : Parser Unit :=
  word "/" <|> word "."

/-- A key of a path: a name, or any text in brackets. -/
def pathKey : Parser String :=
  identifier <|> do
    word "["
    let cs ← get
    match cs.dropWhile (· != ']') with
    | _ :: rest =>
      set rest
      return String.ofList (cs.takeWhile (· != ']'))
    | [] => failure

/-- A path. The key `this` leads nowhere. -/
def path : Parser Path := do
  let before ← get
  let _ ← fits ((do word "this"; separator) <|> word "./")
  let fromRoot ← fits do
    word "@root"
    separator
  let isVariable ← fits (word "@")
  let ups ← many do
    word ".."
    separator
  let first ← pathKey
  let others ← many do
    separator
    pathKey
  let keys := (first :: others).filter (· != "this")
  let text := String.ofList (before.take (before.length - (← get).length))
  return {
    text
    origin :=
      if fromRoot then .root else if isVariable then .locals ups.length else .block ups.length
    keys := if !fromRoot && isVariable then keys.take 1 else keys }

def skipNumber : Parser Unit := do
  let _ ← fits (word "-")
  let _ ← span1 Char.isDigit
  let _ ← fits (word ".")
  let _ ← optional (span1 Char.isDigit)
  let _ ← optional do
    word "E"
    let _ ← fits (word "-")
    span1 Char.isDigit
  atSymbolEnd

def literalWord (s : String) : Parser Unit := do
  word s
  atSymbolEnd

/-- A text in single quotes with the double quotes and apostrophes written as in double quotes. -/
def requote : List Char → List Char
  | '\\' :: '\'' :: cs => '\'' :: requote cs
  | '\\' :: c :: cs => '\\' :: c :: requote cs
  | '"' :: cs => '\\' :: '"' :: requote cs
  | c :: cs => c :: requote cs
  | [] => []

/-- The text up to the closing quote, and what follows it. -/
def quotedRest? (quote : Char) : List Char → Option (List Char × List Char)
  | [] => none
  | '\\' :: c :: cs =>
    if (c == '"' || c == '\'') && c != quote then none
    else (quotedRest? quote cs).map fun (s, rest) => ('\\' :: c :: s, rest)
  | c :: cs =>
    if c = quote then some ([], cs) else (quotedRest? quote cs).map fun (s, rest) => (c :: s, rest)

def quoted (quote : Char) : Parser (List Char) := do
  word (String.singleton quote)
  match quotedRest? quote (← get) with
  | some (s, rest) =>
    set rest
    return s
  | none => failure

def skipQuoted : Parser Unit := do
  let _ ← quoted '"' <|> quoted '\''

/-- Runs over a number, a word for a constant, an array or an object; in arrays and objects there
may be texts. -/
def skipLiteral : (steps : Nat) → Parser Unit
  | 0 => failure
  | steps + 1 =>
    skipNumber <|> literalWord "null" <|> literalWord "true" <|> literalWord "false" <|>
    (do
      word "["
      let item : Parser Unit := do
        gap
        skipQuoted <|> skipLiteral steps
      let _ ← optional item
      let _ ← many do
        token ","
        item
      token "]") <|>
    (do
      word r"{"
      let field : Parser Unit := do
        gap
        skipQuoted
        token ":"
        gap
        skipQuoted <|> skipLiteral steps
      let _ ← optional field
      let _ ← many do
        token ","
        field
      token r"}")

/-- The arguments with names; of two with one name the later one counts. -/
def lastNamed : List (String × Param) → List (String × Param)
  | [] => []
  | (k, p) :: rest => if rest.any (·.1 == k) then lastNamed rest else (k, p) :: lastNamed rest

mutual

def inner : (steps : Nat) → Parser Call
  | 0 => failure
  | steps + 1 => do
    token "("
    gap
    let c ← call steps <|> (do return .mk (← path).text [] [])
    token ")"
    return c

/-- A helper with arguments, of which there is at least one. -/
def call : (steps : Nat) → Parser Call
  | 0 => failure
  | steps + 1 => do
    let name ← identifier
    let (params, named) ← arguments steps
    if params.isEmpty && named.isEmpty then failure
    return .mk name params named

def arguments : (steps : Nat) → Parser (List Param × List (String × Param))
  | 0 => failure
  | steps + 1 => do
    let args ← many do
      gap
      (do
        let key ← identifier
        token "="
        gap
        return Sum.inr (key, ← param steps)) <|>
      (do return Sum.inl (← param steps))
    return (args.filterMap Sum.getLeft?, lastNamed (args.filterMap Sum.getRight?))

def param : (steps : Nat) → Parser Param
  | 0 => failure
  | steps + 1 => do
    let isKeyword ← fits do
      let before ← get
      literalWord "as"
      set before
    if isKeyword then failure
    let literal (notation? : Option Json) : Parser Param :=
      match notation? with
      | some v => return .literal v
      | none => failure
    match ← optional (quoted '\'') with
    | some s => literal (Json.ofNotation? ('"' :: requote s ++ ['"']))
    | none =>
      match ← optional (taken (skipQuoted <|> skipLiteral (steps + 1))) with
      | some s => literal (Json.ofNotation? s)
      | none => (do return .path (← path)) <|> (do return .call (← inner steps))

end

def shown (steps : Nat) : Parser Shown :=
  (do return .call (← call steps)) <|> (do return .inner (← inner steps)) <|>
    (do return .path (← path))

def tilde : Parser Bool :=
  fits (token "~")

def between (left right : String) (p : Parser Tag) : Parser Trimmed := do
  word left
  let before ← tilde
  gap
  let tag ← p
  let after ← tilde
  token right
  return { before, after, tag }

/-- A helper that opens a block, with the names of the block's parameters. -/
def opening (steps : Nat) : Parser (Call × List String) := do
  let name ← identifier
  let (params, named) ← arguments steps
  let names ← optional do
    token "as"
    token "|"
    gap
    let first ← identifier
    let second ← optional do
      gap
      identifier
    token "|"
    return first :: second.toList
  return (.mk name params named, names.getD [])

def otherwiseWord : Parser Unit :=
  word "else" <|> word "^"

def otherwise : Parser Trimmed :=
  between r"{{" r"}}" do
    otherwiseWord
    return .otherwise

def otherwiseOpen (steps : Nat) : Parser Trimmed :=
  between r"{{" r"}}" do
    otherwiseWord
    gap
    let (c, params) ← opening steps
    return .otherwiseOpen c params

def upTo (stop : String) : Parser Unit := do
  match cutAt? stop.toList (← get) with
  | some (_, rest) => set rest
  | none => failure

def comment : Parser Trimmed := do
  word r"{{!"
  (do word "--"; upTo r"--}}") <|> upTo r"}}"
  return { before := false, after := false, tag := .comment }

def output (steps : Nat) : Parser Trimmed :=
  between r"{{{" r"}}}" (do return .output (← shown steps)) <|>
  between r"{{" r"}}" (do
    (do
      word r"{"
      gap
      let s ← shown steps
      token r"}"
      return .output s) <|>
    (do
      word "&"
      gap
      return .output (← (do return .inner (← inner steps)) <|> (do return .path (← path)))) <|>
    (do return .output (← shown steps)))

def blockStart (steps : Nat) : Parser Trimmed :=
  between r"{{" r"}}" do
    word "#"
    gap
    let (c, params) ← opening steps
    return .open c params

def blockEnd : Parser Trimmed :=
  between r"{{" r"}}" do
    word "/"
    gap
    return .close (← identifier)

def tag (steps : Nat) : Parser Trimmed :=
  otherwise <|> otherwiseOpen steps <|> output steps <|> blockStart steps <|> blockEnd <|> comment

def rawOpen (steps : Nat) : Parser Trimmed :=
  between r"{{{{" r"}}}}" do
    let (c, params) ← opening steps
    return .open c params

def rawClose : Parser Trimmed :=
  between r"{{{{" r"}}}}" do
    word "/"
    gap
    return .close (← identifier)

end Grammar

end Stencil.Blocks

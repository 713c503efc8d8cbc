import Stencil.Json

/-!
# Printing JSON

Values in JSON notation, in one line without blanks or over several lines with indentation.
-/

namespace Stencil.Json

def escapedChar (c : Char) : List Char :=
  match c with
  | '"' => ['\\', '"']
  | '\\' => ['\\', '\\']
  | '\x08' => ['\\', 'b']
  | '\x0c' => ['\\', 'f']
  | '\n' => ['\\', 'n']
  | '\r' => ['\\', 'r']
  | '\t' => ['\\', 't']
  | c =>
    if c.toNat < 32 then
      '\\' :: 'u' :: '0' :: '0' :: (Nat.toDigits 16 (c.toNat / 16) ++ Nat.toDigits 16 (c.toNat % 16))
    else [c]

def quoted (s : String) : List Char :=
  '"' :: s.toList.flatMap escapedChar ++ ['"']

/-- A value without parts. A number that is not finite has no notation and is written as null. -/
def atom : Json → List Char
  | null => "null".toList
  | bool b => (toString b).toList
  | int n => (Json.int n).numberText
  | float x => if x.isFinite then x.notated else "null".toList
  | str s => quoted s
  | arr _ | obj _ => []

mutual

def compact : Json → List Char
  | arr items => '[' :: compactItems items ++ [']']
  | obj fields => '{' :: compactFields fields ++ ['}']
  | v => v.atom

def compactItems : List Json → List Char
  | [] => []
  | [v] => v.compact
  | v :: vs => v.compact ++ ',' :: compactItems vs

def compactFields : List (String × Json) → List Char
  | [] => []
  | [(k, v)] => quoted k ++ ':' :: v.compact
  | (k, v) :: rest => quoted k ++ ':' :: v.compact ++ ',' :: compactFields rest

end

def lineStart (depth : Nat) : List Char :=
  '\n' :: List.replicate (2 * depth) ' '

mutual

def prettyAt (depth : Nat) : Json → List Char
  | arr [] => ['[', ']']
  | arr (v :: vs) => '[' :: prettyItems (depth + 1) (v :: vs) ++ lineStart depth ++ [']']
  | obj [] => ['{', '}']
  | obj (f :: fs) => '{' :: prettyFields (depth + 1) (f :: fs) ++ lineStart depth ++ ['}']
  | v => v.atom

def prettyItems (depth : Nat) : List Json → List Char
  | [] => []
  | [v] => lineStart depth ++ prettyAt depth v
  | v :: vs => lineStart depth ++ prettyAt depth v ++ ',' :: prettyItems depth vs

def prettyFields (depth : Nat) : List (String × Json) → List Char
  | [] => []
  | [(k, v)] => lineStart depth ++ quoted k ++ ": ".toList ++ prettyAt depth v
  | (k, v) :: rest =>
    lineStart depth ++ quoted k ++ ": ".toList ++ prettyAt depth v ++ ',' :: prettyFields depth rest

end

def pretty (v : Json) : List Char :=
  prettyAt 0 v

end Stencil.Json

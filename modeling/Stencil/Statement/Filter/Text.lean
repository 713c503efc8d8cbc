import Stencil.Statement.Arguments
import Stencil.Text.Grapheme
import Stencil.Text.LetterCase

/-!
# Filters on texts
-/

namespace Stencil.Statement.Filter

def isApostrophe (c : Char) : Bool := c == '\''

def isWordEdge (before after : Option Char) : Bool :=
  let inWord (c : Option Char) : Bool := (c.map isUnicodeWord).getD false
  inWord before != inWord after

/-- The longest piece of `run` that ends at the edge of a word, `after` being what follows the
run. -/
def wordAtEdge (run : List Char) (after : Option Char) : Option (List Char) :=
  let ends (n : Nat) : Bool :=
    n > 0 && isWordEdge (run[n - 1]?) (if n = run.length then after else run[n]?)
  ((List.range (run.length + 1)).reverse.find? ends).map run.take

/-- Capitalises words; apostrophes belong to them. `before` is the character before the text, and
`count` bounds the number of steps. -/
def titleFrom (before : Option Char) : (count : Nat) → List Char → List Char
  | 0, cs => cs
  | _ + 1, [] => []
  | count + 1, c :: cs =>
    let belongs (c : Char) : Bool := isUnicodeWord c || isApostrophe c
    if belongs c && isWordEdge before (some c) then
      let run := (c :: cs).takeWhile belongs
      let after := (c :: cs).dropWhile belongs
      match wordAtEdge run after.head? with
      | some word =>
        upperChar c ++ lowerText (word.drop 1) ++
          titleFrom word.getLast? count ((c :: cs).drop word.length)
      | none => c :: titleFrom (some c) count cs
    else c :: titleFrom (some c) count cs

def capitalize : List Char → List Char
  | [] => []
  | c :: cs => upperChar c ++ lowerText cs

def unescapeBreaks (s : List Char) : List Char :=
  replaceAll ['\\', 't'] ['\t'] (replaceAll ['\\', 'n'] ['\n'] s)

/-- The pieces between the occurrences of a separator; an empty one occurs before every character
and at the end. -/
def pieces (sep : List Char) (s : List Char) : List (List Char) :=
  if _hp : sep = [] then [] :: s.map (fun c => [c]) ++ [[]]
  else
    match _h : cutAt? sep s with
    | none => [s]
    | some (before, after) => before :: pieces sep after
termination_by s.length
decreasing_by exact length_after_lt_of_cutAt? _hp _h

/-- The lines of a text without their breaks; the last line may end with one. -/
def linesOf (s : List Char) : List (List Char) :=
  let lines := splitOnChar '\n' s
  let lines := if lines.getLast? == some [] then lines.dropLast else lines
  lines.map fun line =>
    if line.getLast? == some '\r' then line.dropLast else line

/-- A text with `lead` before its lines: before the first one if `first` is set, and before blank
ones if `blank` is. -/
def indent (lead : List Char) (first blank : Bool) (s : List Char) : List Char :=
  match linesOf s with
  | [] => []
  | line :: lines =>
    (if first then lead else []) ++ line ++ lines.flatMap fun line =>
      '\n' :: (if blank || !line.all isBlank then lead else []) ++ line

def afterTag? (s : List Char) : Option (List Char) :=
  match s with
  | '<' :: '!' :: '-' :: '-' :: cs =>
    match cutAt? ['-', '-', '>'] cs with
    | some (inside, rest) => if inside.contains '\n' then closing? cs else some rest
    | none => closing? cs
  | '<' :: cs => closing? cs
  | _ => none
where
  closing? (cs : List Char) : Option (List Char) :=
    (cutAt? ['>'] cs).map (·.2)

def withoutTags : (count : Nat) → List Char → List Char
  | 0, cs => cs
  | _ + 1, [] => []
  | count + 1, c :: cs =>
    match afterTag? (c :: cs) with
    | some rest => withoutTags count rest
    | none => c :: withoutTags count cs

def withoutSpaces : List Char → List Char
  | [] => []
  | '>' :: cs =>
    match cs.dropWhile isBlank with
    | '<' :: _ => '>' :: withoutSpaces (cs.dropWhile isBlank)
    | _ => '>' :: withoutSpaces cs
  | c :: cs => c :: withoutSpaces cs
termination_by s => s.length
decreasing_by
  · have := (List.dropWhile_suffix isBlank (l := cs)).length_le
    simp only [List.length_cons]; omega
  · simp
  · simp

def escape (apostrophe : String) (slash : Bool) (s : List Char) : List Char :=
  s.flatMap fun c =>
    match c with
    | '&' => "&amp;".toList
    | '<' => "&lt;".toList
    | '>' => "&gt;".toList
    | '"' => "&quot;".toList
    | '\'' => apostrophe.toList
    | '/' => if slash then "&#x2F;".toList else [c]
    | _ => [c]

/-- A text cut after so many graphemes, with a mark where it was cut. -/
def truncate (length : Nat) (mark : List Char) (s : List Char) : List Char :=
  let graphemes := Grapheme.cut s
  if length ≥ graphemes.length then s else (graphemes.take length).flatten ++ mark

def onText (f : List Char → List Char) : Json → Option Json
  | .str s => some (.str (String.ofList (f s.toList)))
  | _ => none

def text? : String → Option Filter
  | "upper" => some fun v _ => onText upperText v
  | "lower" => some fun v _ => onText lowerText v
  | "capitalize" => some fun v _ => onText capitalize v
  | "title" => some fun v _ => onText (fun cs => titleFrom none (cs.length + 1) cs) v
  | "trim" => some fun v _ => onText (trimBy isBlank) v
  | "trim_start" => some fun v _ => onText (trimStart isBlank) v
  | "trim_end" => some fun v _ => onText (trimEnd isBlank) v
  | "trim_start_matches" => some fun v args => do
    let pat ← args.text? "pat"
    onText (dropCopies pat.toList) v
  | "trim_end_matches" => some fun v args => do
    let pat ← args.text? "pat"
    onText (fun cs => (dropCopies pat.toList.reverse cs.reverse).reverse) v
  | "replace" => some fun v args => do
    let pat ← args.text? "from"
    let new ← args.text? "to"
    onText (replaceAll pat.toList new.toList) v
  | "truncate" => some fun v args => do
    let length ← args.natOr? "length" 255
    let mark ← args.textOr? "end" "…"
    onText (truncate length mark.toList) v
  | "linebreaksbr" => some fun v _ =>
    onText (fun cs => replaceAll ['\n'] "<br>".toList (replaceAll ['\r', '\n'] "<br>".toList cs)) v
  | "indent" => some fun v args => do
    let lead ← args.textOr? "prefix" "    "
    let first ← args.boolOr? "first" false
    let blank ← args.boolOr? "blank" false
    onText (indent lead.toList first blank) v
  | "striptags" => some fun v _ => onText (fun cs => withoutTags (cs.length + 1) cs) v
  | "spaceless" => some fun v _ => onText withoutSpaces v
  | "escape" => some fun v _ => onText (escape "&#x27;" true) v
  | "escape_xml" => some fun v _ => onText (escape "&apos;" false) v
  | "addslashes" => some fun v _ =>
    onText (fun cs => cs.flatMap fun c =>
      if c == '\\' || c == '"' || c == '\'' then ['\\', c] else [c]) v
  | "split" => some fun v args => do
    let pat ← args.text? "pat"
    let s ← v.str?
    some (.arr ((pieces (unescapeBreaks pat.toList) s.toList).map fun p => .str (String.ofList p)))
  | "wordcount" => some fun v _ => do
    let s ← v.str?
    some (.int ((s.toList.splitBy fun a b => isBlank a == isBlank b).filter
      fun piece => !(piece.head?.map isBlank).getD true).length)
  | _ => none

end Stencil.Statement.Filter

import Stencil.Shell.Octets

/-!
# Shell scripts

The words and commands of a script. A word keeps apart what was quoted and what was not; what it
stands for is decided when it is used.
-/

namespace Stencil.Shell

/-- What stands in for a parameter in a reference such as `${name:-word}`. -/
inductive Substitute where
  /-- The word stands for a parameter that is not set. -/
  | default
  /-- The word becomes the value of a parameter that is not set. -/
  | assign
  /-- A parameter that is not set is an error, of which the word tells. -/
  | complain
  /-- The word stands for a parameter that is set. -/
  | alternative
  deriving DecidableEq, Repr

mutual

inductive Piece where
  | text (s : Octets) (quoted : Bool)
  | parameter (name : Octets) (use : ParameterUse) (quoted : Bool)
  /-- What a command writes. -/
  | output (body : Option Command) (quoted : Bool)
  /-- The value of an arithmetic expression. -/
  | arithmetic (text : List Piece) (quoted : Bool)

inductive ParameterUse where
  | value
  | length
  /-- An empty value counts as not set if `orEmpty` holds. -/
  | substitute (kind : Substitute) (orEmpty : Bool) (word : List Piece)
  /-- The value without what fits a pattern at one of its ends. -/
  | trim (atStart longest : Bool) (pattern : List Piece)
  | malformed

inductive RedirectTarget where
  | read (name : List Piece)
  | write (name : List Piece)
  | append (name : List Piece)
  /-- A handle that a word names, or none. -/
  | handle (word : List Piece)
  /-- The document with a number. -/
  | document (number : Nat)

inductive Redirect where
  | mk (handle : Nat) (target : RedirectTarget)

inductive Command where
  | simple (line : Nat) (assignments : List (Octets × List Piece)) (words : List (List Piece))
    (redirects : List Redirect)
  | pipe (commands : List Command)
  | background (c : Command)
  | negated (c : Command)
  | and (c d : Command)
  | or (c d : Command)
  | sequence (c d : Command)
  | ifs (condition body : Option Command) (otherwise : Option Command)
  /-- A loop that goes on as long as its condition is `continues`. -/
  | loop (continues : Bool) (condition body : Option Command)
  /-- Without words the loop runs over the parameters of the script. -/
  | forEach (line : Nat) (name : Octets) (words : Option (List (List Piece)))
    (body : Option Command)
  | cases (line : Nat) (word : List Piece) (branches : List (List (List Piece) × Option Command))
  | subshell (line : Nat) (body : Option Command) (redirects : List Redirect)
  | redirected (line : Nat) (body : Option Command) (redirects : List Redirect)
  | define (name : Octets) (body : Command)

end

instance : Inhabited Command := ⟨.pipe []⟩

abbrev Word := List Piece

namespace Word

/-- The text of a word in which nothing is quoted and nothing stands for something else. -/
def plain? : Word → Option Octets
  | [.text s false] => some s
  | _ => none

def isNameStart (c : Char) : Bool :=
  c.isAlpha || c == '_'

def isNameChar (c : Char) : Bool :=
  c.isAlphanum || c == '_'

def isName : Octets → Bool
  | [] => false
  | c :: cs => isNameStart c && cs.all isNameChar

def assignment? : Word → Option (Octets × Word)
  | .text s false :: rest =>
    let name := s.takeWhile (· != '=')
    match s.dropWhile (· != '=') with
    | _ :: value =>
      if isName name then some (name, if value.isEmpty then rest else .text value false :: rest)
      else none
    | [] => none
  | _ => none

def compress : Word → Word
  | .text s q :: rest =>
    match compress rest with
    | .text t q' :: more => if q == q' then .text (s ++ t) q :: more else .text s q :: .text t q' :: more
    | rest => .text s q :: rest
  | p :: rest => p :: compress rest
  | [] => []

end Word

inductive SyntaxFault where
  /-- A sign that cannot stand where it does, and the one that is expected. -/
  | unexpected (found : String) (expected : Option String)
  | openQuote
  | openBackquote
  | openBrace
  | openArithmetic
  | loopVariable
  | functionName
  deriving DecidableEq, Repr

namespace SyntaxFault

def message : SyntaxFault → String
  | unexpected found none => found ++ " unexpected"
  | unexpected found (some expected) => found ++ " unexpected (expecting " ++ expected ++ ")"
  | openQuote => "Unterminated quoted string"
  | openBackquote => "EOF in backquote substitution"
  | openBrace => r"Missing '}'"
  | openArithmetic => "Missing '))'"
  | loopVariable => "Bad for loop variable"
  | functionName => "Bad function name"

end SyntaxFault

structure SyntaxError where
  line : Nat
  fault : SyntaxFault
  deriving DecidableEq, Repr

inductive Token where
  | eof
  | newline
  | semicolon
  | doubleSemicolon
  | ampersand
  | doubleAmpersand
  | bar
  | doubleBar
  | opening
  | closing
  | redirect (r : Redirect)
  | word (w : Word)

def keywords : List String :=
  ["!", "case", "do", "done", "elif", "else", "esac", "fi", "for", "if", "in", "then", "until", "while",
    r"{", r"}"]

def closingKeywords : List String :=
  ["do", "done", "elif", "else", "esac", "fi", "then", r"}"]

namespace Token

def keyword? : Token → Option String
  | word w =>
    match w.plain? with
    | some s => keywords.find? fun k => k.toList == s
    | none => none
  | _ => none

def isKeyword (t : Token) (k : String) : Bool :=
  t.keyword? == some k

def endsList (t : Token) : Bool :=
  match t with
  | eof | closing | doubleSemicolon => true
  | word _ => (t.keyword?.map (closingKeywords.contains ·)).getD false
  | _ => false

def name (t : Token) : String :=
  let quoted (s : String) : String := "\"" ++ s ++ "\""
  match t with
  | eof => "end of file"
  | newline => "newline"
  | semicolon => quoted ";"
  | doubleSemicolon => quoted ";;"
  | ampersand => quoted "&"
  | doubleAmpersand => quoted "&&"
  | bar => quoted "|"
  | doubleBar => quoted "||"
  | opening => quoted "("
  | closing => quoted ")"
  | redirect _ => "redirection"
  | word _ => "word"

def nameOrKeyword (t : Token) : String :=
  match t.keyword? with
  | some k => "\"" ++ k ++ "\""
  | none => t.name

end Token

end Stencil.Shell

import Stencil.Text.LetterCase
import Stencil.Text.Search

/-!
# Naming

A name is cut into words at its separators and where its letters change case, and the words are
joined again in one of six spellings. Two more spellings treat a last word `id` specially.
-/

namespace Stencil

/-- The case of the word that is being read: none seen yet, or that of its last cased letter. -/
inductive WordCase where
  | undecided
  | lower
  | upper
  deriving DecidableEq, Repr

def WordCase.next (mode : WordCase) (c : Char) : WordCase :=
  if isLowercase c then .lower else if isUppercase c then .upper else mode

/-- The words of a separator-free piece; `word` holds the letters of the current word, the last one
first. A word ends before an upper case letter that follows a lower case one, and before the last
upper case letter of a run that a lower case one follows. -/
def wordsOfPiece (word : List Char) (mode : WordCase) : List Char → List (List Char)
  | [] => []
  | [c] => [(c :: word).reverse]
  | c :: next :: rest =>
    if mode.next c = .lower && isUppercase next then
      (c :: word).reverse :: wordsOfPiece [] .undecided (next :: rest)
    else if mode = .upper && isUppercase c && isLowercase next then
      word.reverse :: wordsOfPiece [c] .undecided (next :: rest)
    else
      wordsOfPiece (c :: word) (mode.next c) (next :: rest)

/-- The maximal pieces between separators, empty ones included. -/
def pieces : List Char → List (List Char)
  | [] => [[]]
  | c :: cs =>
    match pieces cs with
    | [] => [[c]]
    | piece :: rest =>
      if isAlphanumeric c then (c :: piece) :: rest else [] :: piece :: rest

def nameWords (name : List Char) : List (List Char) :=
  (pieces name).flatMap (wordsOfPiece [] .undecided)

/-- A word in lower case; a capital sigma at its end becomes a final sigma. -/
def lowerWord : List Char → List Char
  | [] => []
  | [c] => if c = 'Σ' then ['ς'] else lowerChar c
  | c :: cs => lowerChar c ++ lowerWord cs

/-- A word with its first letter in upper case and the others in lower case. -/
def capitalizeWord : List Char → List Char
  | [] => []
  | c :: cs => upperChar c ++ lowerWord cs

inductive NameCase where
  | kebab
  | camel
  | lowerCamel
  | screaming
  | screamingSnake
  | snake
  deriving DecidableEq, Repr

namespace NameCase

def all : List NameCase :=
  [kebab, camel, lowerCamel, screaming, screamingSnake, snake]

def suffix : NameCase → String
  | kebab => "Kebab"
  | camel => "Camel"
  | lowerCamel => "LowerCamel"
  | screaming => "Screaming"
  | screamingSnake => "ScreamingSnake"
  | snake => "Snake"

def spell : NameCase → List Char → List Char
  | kebab, name => joinWith ['-'] ((nameWords name).map lowerWord)
  | camel, name => (nameWords name).flatMap capitalizeWord
  | lowerCamel, name =>
    match nameWords name with
    | [] => []
    | word :: words => lowerWord word ++ words.flatMap capitalizeWord
  | screaming, name => upperText name
  | screamingSnake, name => joinWith ['_'] ((nameWords name).map upperText)
  | snake, name => joinWith ['_'] ((nameWords name).map lowerWord)

def apply (case : NameCase) (name : String) : String :=
  String.ofList (case.spell name.toList)

end NameCase

/-- The camel spelling, in which a last `Id` is written `ID`. -/
def goFieldName (name : String) : String :=
  let camel := NameCase.camel.spell name.toList
  match dropSuffix? "Id".toList camel with
  | some stem => String.ofList (stem ++ "ID".toList)
  | none => String.ofList camel

/-- The spelling `case` for a name whose last word is `id`, with `ending` in place of that word; any
other name is in the snake spelling. -/
def withIdEnding (case : NameCase) (ending : String) (name : String) : String :=
  let snake := NameCase.snake.spell name.toList
  match dropSuffix? "_id".toList snake with
  | some stem => String.ofList (case.spell stem ++ ending.toList)
  | none => String.ofList snake

end Stencil

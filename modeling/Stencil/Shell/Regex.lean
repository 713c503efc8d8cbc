import Stencil.Shell.Pattern

/-!
# Regular expressions

Basic and extended regular expressions. Of the parts of a text that fit, the one that begins first
counts, and of those the longest.
-/

namespace Stencil.Shell

inductive Regex where
  | empty
  | char (c : Char)
  | any
  | bracket (negated : Bool) (items : List BracketItem)
  | lineStart
  | lineEnd
  | wordStart
  | wordEnd
  /-- The edge of a word, or any other place if `inside` holds. -/
  | wordEdge (inside : Bool)
  | sequence (l r : Regex)
  | choice (l r : Regex)
  | group (number : Nat) (r : Regex)
  /-- The text that a group stands for. -/
  | same (number : Nat)
  | «repeat» (r : Regex) (least : Nat) (most : Option Nat)
  deriving Inhabited, Repr

inductive RegexFault where
  | openGroup
  | closedGroup
  | openBracket
  | openBrace
  | badBrace
  | trailingBackslash
  | badReference
  | nothingToRepeat
  | tooBig
  deriving DecidableEq, Repr

def RegexFault.message : RegexFault → String
  | openGroup => "Unmatched ( or \\("
  | closedGroup => "Unmatched ) or \\)"
  | openBracket => "Unmatched [, [^, [:, [., or [="
  | openBrace => r"Unmatched \{"
  | badBrace => r"Invalid content of \{\}"
  | trailingBackslash => "Trailing backslash"
  | badReference => "Invalid back reference"
  | nothingToRepeat => "Invalid preceding regular expression"
  | tooBig => "Regular expression too big"

structure RegexNotation where
  /-- Groups, alternatives and repetitions have signs without a backslash. -/
  extended : Bool
  /-- Signs that have nothing to repeat or to close stand for themselves. -/
  lenient : Bool := false

namespace Regex

/-! ## Reading -/

structure Reading where
  rest : Octets
  groups : Nat := 0
  /-- The groups that are open. -/
  depth : Nat := 0

abbrev Reader := StateT Reading (Except RegexFault)

def goOn (rest : Octets) : Reader Unit :=
  modify fun s => { s with rest }

def isWord (c : Char) : Bool :=
  c.isAlphanum || c == '_'

def wordItems : List BracketItem :=
  [.cls "alnum", .range '_' '_']

def spaceItems : List BracketItem :=
  [.cls "space"]

def escaped? : Char → Option Regex
  | 'w' => some (.bracket false wordItems)
  | 'W' => some (.bracket true wordItems)
  | 's' => some (.bracket false spaceItems)
  | 'S' => some (.bracket true spaceItems)
  | 'b' => some (.wordEdge false)
  | 'B' => some (.wordEdge true)
  | '<' => some .wordStart
  | '>' => some .wordEnd
  | '\x60' => some .lineStart
  | '\'' => some .lineEnd
  | 'n' => some (.char '\n')
  | 't' => some (.char '\t')
  | _ => none

def bracketPart (cs : Octets) : Reader Regex := do
  let (negated, inner) := match cs with
    | '^' :: rest => (true, rest)
    | _ => (false, cs)
  match Pattern.bracketItems true (inner.length + 1) (inner.map (·, false)) with
  | some (items, rest) =>
    goOn (rest.map (·.1))
    return .bracket negated items
  | none => throw .openBracket

def bounds? (cs : Octets) : Option (Nat × Option Nat × Octets) :=
  let digits (cs : Octets) : Octets × Octets := (cs.takeWhile Char.isDigit, cs.dropWhile Char.isDigit)
  let (low, rest) := digits cs
  match rest with
  | ',' :: rest =>
    let (high, rest) := digits rest
    some ((Octets.nat? low).getD 0, Octets.nat? high, rest)
  | _ => (Octets.nat? low).map fun n => (n, some n, rest)

def maxRepetitions : Nat := 32767

def repetition? (extended : Bool) (cs : Octets) :
    Option (Except RegexFault (Nat × Option Nat × Octets)) :=
  let braces (ending : Octets) (cs : Octets) : Except RegexFault (Nat × Option Nat × Octets) :=
    match bounds? cs with
    | some (low, high, rest) =>
      if rest.take ending.length == ending then
        if (high.map fun h => decide (h < low)).getD false then .error .badBrace
        else if max low (high.getD 0) > maxRepetitions then .error .tooBig
        else .ok (low, high, rest.drop ending.length)
      else if rest.isEmpty then .error .openBrace else .error .badBrace
    | none => if cs.isEmpty then .error .openBrace else .error .badBrace
  match extended, cs with
  | _, '*' :: rest => some (.ok (0, none, rest))
  | true, '+' :: rest => some (.ok (1, none, rest))
  | true, '?' :: rest => some (.ok (0, some 1, rest))
  | true, '{' :: rest => if (rest.head?.map Char.isDigit).getD false || rest.head? == some ','
      then some (braces ['}'] rest) else none
  | false, '\\' :: '+' :: rest => some (.ok (1, none, rest))
  | false, '\\' :: '?' :: rest => some (.ok (0, some 1, rest))
  | false, '\\' :: '{' :: rest => some (braces ['\\', '}'] rest)
  | _, _ => none

def isStrictRepetition (cs : Octets) : Bool :=
  match cs with
  | '*' :: _ | '\\' :: '{' :: _ => true
  | _ => false

/-- What follows a repeated part: its repetitions; `again` tells that there is one already. -/
def repetitions (dialect : RegexNotation) (again : Bool) : (steps : Nat) → Regex → Reader Regex
  | 0, r => pure r
  | steps + 1, r => do
    let rest := (← get).rest
    if again && !dialect.extended && !dialect.lenient && isStrictRepetition rest then
      throw .nothingToRepeat
    match repetition? dialect.extended rest with
    | none => return r
    | some (.error e) => throw e
    | some (.ok (low, high, rest)) =>
      goOn rest
      repetitions dialect true steps (.repeat r low high)

/-- Whether a text begins with the sign that ends a group or an alternative. -/
def atEnd (extended : Bool) (cs : Octets) : Bool :=
  match extended, cs with
  | _, [] => true
  | true, ')' :: _ | true, '|' :: _ => true
  | false, '\\' :: ')' :: _ | false, '\\' :: '|' :: _ => true
  | _, _ => false

mutual

def alternatives (dialect : RegexNotation) : (steps : Nat) → Reader Regex
  | 0 => pure .empty
  | steps + 1 => do
    let l ← parts dialect true steps
    match dialect.extended, (← get).rest with
    | true, '|' :: rest | false, '\\' :: '|' :: rest =>
      goOn rest
      return .choice l (← alternatives dialect steps)
    | _, _ => return l

/-- The parts of an alternative; `first` tells that none has been read. -/
def parts (dialect : RegexNotation) (first : Bool) : (steps : Nat) → Reader Regex
  | 0 => pure .empty
  | steps + 1 => do
    let extended := dialect.extended
    let s ← get
    let closes := match extended, s.rest with
      | true, ')' :: _ => s.depth == 0 && dialect.lenient
      | _, _ => false
    if atEnd extended s.rest && !closes then return .empty
    let r ← part dialect first steps
    let isAnchor := match r with
      | .lineStart => true
      | _ => false
    let r ←
      if isAnchor && !extended then pure r else repetitions dialect false steps r
    return .sequence r (← parts dialect (first && isAnchor && !extended) steps)

def part (dialect : RegexNotation) (first : Bool) : (steps : Nat) → Reader Regex
  | 0 => pure .empty
  | steps + 1 => do
    let extended := dialect.extended
    let openGroup (rest : Octets) : Reader Regex := do
      let number := (← get).groups + 1
      modify fun s => { rest, groups := number, depth := s.depth + 1 }
      let r ← alternatives dialect steps
      match extended, (← get).rest with
      | true, ')' :: rest | false, '\\' :: ')' :: rest =>
        modify fun s => { s with rest, depth := s.depth - 1 }
        return .group number r
      | _, _ => throw .openGroup
    match (← get).rest with
    | [] => return .empty
    | '\\' :: [] => throw .trailingBackslash
    | '\\' :: c :: cs =>
      if c == '(' && !extended then openGroup cs
      else if c.isDigit && c != '0' then
        let n := c.toNat - '0'.toNat
        if n > (← get).groups then throw .badReference
        goOn cs
        return .same n
      else
        goOn cs
        return (escaped? c).getD (.char c)
    | '[' :: cs => bracketPart cs
    | '.' :: cs =>
      goOn cs
      return .any
    | '(' :: cs =>
      if extended then openGroup cs
      else
        goOn cs
        return .char '('
    | '^' :: cs =>
      goOn cs
      return if extended || first then .lineStart else .char '^'
    | '$' :: cs =>
      goOn cs
      return if extended || atEnd extended cs then .lineEnd else .char '$'
    | c :: cs =>
      if extended && first && (c == '*' || c == '+' || c == '?') then throw .nothingToRepeat
      goOn cs
      return .char c

end

def parse (dialect : RegexNotation) (cs : Octets) : Except RegexFault Regex := do
  let (r, s) ← (alternatives dialect (6 * cs.length + 8)).run { rest := cs }
  if s.rest.isEmpty then pure r else throw .closedGroup

def groupCount : Regex → Nat
  | .sequence l r => groupCount l + groupCount r
  | .choice l r => groupCount l + groupCount r
  | .group _ r => groupCount r + 1
  | .repeat r _ _ => groupCount r
  | _ => 0

/-! ## Fitting -/

/-- A place in a text, and the groups that have fitted on the way. -/
structure Spot where
  before : Option Char
  rest : Octets
  position : Nat
  groups : List (Nat × Octets) := []

namespace Spot

def next (p : Spot) (c : Char) (rest : Octets) : Spot :=
  { p with before := some c, rest, position := p.position + 1 }

def distinct (ps : List Spot) : List Spot :=
  ps.foldr (fun p acc => p :: acc.filter (·.position != p.position)) []

def isAfterWord (p : Spot) : Bool :=
  (p.before.map isWord).getD false

def isBeforeWord (p : Spot) : Bool :=
  (p.rest.head?.map isWord).getD false

end Spot

def sameChar (folding : Bool) (c d : Char) : Bool :=
  c == d || (folding && c.toLower == d.toLower)

/-- The places that are reached by repeating a step, more repetitions first. -/
def iterate (step : Spot → List Spot) (least : Nat) (most : Option Nat) :
    (fuel count : Nat) → Spot → List Spot
  | 0, _, p => [p]
  | fuel + 1, count, p =>
    let further :=
      if (most.map fun m => decide (count < m)).getD true then
        (step p).flatMap fun q =>
          if q.position > p.position || count < least then
            iterate step least most fuel (count + 1) q
          else []
      else []
    Spot.distinct (further ++ if count ≥ least then [p] else [])

def between (p q : Spot) : Octets :=
  p.rest.take (q.position - p.position)

def ends (folding : Bool) : Regex → Spot → List Spot
  | .empty, p => [p]
  | .char c, p =>
    match p.rest with
    | d :: rest => if sameChar folding c d then [p.next d rest] else []
    | [] => []
  | .any, p =>
    match p.rest with
    | d :: rest => [p.next d rest]
    | [] => []
  | .bracket negated items, p =>
    match p.rest with
    | d :: rest =>
      let holds := items.any fun i =>
        i.holds d || (folding && (i.holds d.toLower || i.holds d.toUpper))
      if holds != negated then [p.next d rest] else []
    | [] => []
  | .lineStart, p => if p.before.isNone then [p] else []
  | .lineEnd, p => if p.rest.isEmpty then [p] else []
  | .wordStart, p => if !p.isAfterWord && p.isBeforeWord then [p] else []
  | .wordEnd, p => if p.isAfterWord && !p.isBeforeWord then [p] else []
  | .wordEdge inside, p => if (p.isAfterWord != p.isBeforeWord) != inside then [p] else []
  | .sequence l r, p => (ends folding l p).flatMap (ends folding r)
  | .choice l r, p => ends folding l p ++ ends folding r p
  | .group number r, p =>
    (ends folding r p).map fun q =>
      { q with groups := (number, between p q) :: q.groups.filter (·.1 != number) }
  | .same number, p =>
    let text := (p.groups.lookup number).getD []
    let taken := p.rest.take text.length
    if taken.length == text.length && (taken.zip text).all fun (c, d) => sameChar folding c d then
      [text.foldl (fun q c => q.next c (q.rest.drop 1)) p]
    else []
  | .repeat r least most, p =>
    iterate (ends folding r) least most (p.rest.length + least + 1) 0 p

structure Fit where
  /-- The text before it. -/
  before : Octets
  text : Octets
  rest : Octets
  groups : List (Nat × Octets)
  deriving Repr

namespace Fit

/-- The text of a group; the whole part is group 0. -/
def group (f : Fit) (n : Nat) : Octets :=
  if n == 0 then f.text else (f.groups.lookup n).getD []

end Fit

def fitAt? (folding : Bool) (r : Regex) (p : Spot) : Option Spot :=
  (ends folding r p).foldl (fun best q =>
    match best with
    | some b => if q.position > b.position then some q else best
    | none => some q) none

/-- The first part that fits from a place on. `skipped` is the text that has been passed, the last
character first. -/
def search (folding : Bool) (r : Regex) (before : Option Char) (skipped : Octets) :
    Octets → Option Fit
  | [] =>
    (fitAt? folding r { before, rest := [], position := 0 }).map fun q =>
      { before := skipped.reverse, text := [], rest := [], groups := q.groups }
  | c :: cs =>
    match fitAt? folding r { before, rest := c :: cs, position := 0 } with
    | some q =>
      some { before := skipped.reverse, text := (c :: cs).take q.position, rest := q.rest,
             groups := q.groups }
    | none => search folding r (some c) (c :: skipped) cs

def find? (folding : Bool) (r : Regex) (text : Octets) : Option Fit :=
  search folding r none [] text

/-- A text cut into what fits and what stands between. A part without length counts unless another
one ends where it is. -/
def split (folding : Bool) (r : Regex) :
    (count : Nat) → (before : Option Char) → (afterFit : Bool) → Octets → List (Octets ⊕ Fit)
  | 0, _, _, text => [.inl text]
  | count + 1, before, afterFit, text =>
    match search folding r before [] text with
    | none => [.inl text]
    | some f =>
      if afterFit && f.before.isEmpty && f.text.isEmpty then
        match text with
        | [] => []
        | c :: cs => .inl [c] :: split folding r count (some c) false cs
      else
        let last := (f.before ++ f.text).getLast?
        .inl f.before :: .inr f :: split folding r count (last.or before) true f.rest

def splitAll (folding : Bool) (r : Regex) (text : Octets) : List (Octets ⊕ Fit) :=
  split folding r (2 * text.length + 2) none false text

end Regex

end Stencil.Shell

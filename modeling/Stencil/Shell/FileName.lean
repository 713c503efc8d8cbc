import Stencil.Shell.Machine
import Stencil.Shell.Pattern

/-!
# File names

The names of files that fit a pattern.
-/

namespace Stencil.Shell.FileName

open Pattern

def components : List Cell → List (List Cell)
  | [] => [[]]
  | c :: cs =>
    match components cs with
    | first :: others => if c.1 == '/' then [] :: first :: others else (c :: first) :: others
    | [] => [[c]]

/-- A name that has been found: its text, and the place that it leads to. -/
structure Found where
  text : Octets
  place : Place

/-- The names in a directory that fit a pattern. Those that begin with a dot fit only a pattern that
begins with one. -/
def namesIn (fs : FileSystem) (place : Place) (pattern : List Cell) : List Octets :=
  let dotted := (pattern.head?.map (·.1)) == some '.'
  let names := (fs.names place).map Octets.ofText
  let names := if dotted then ["."].map String.toList ++ [".."].map String.toList ++ names else names
  let p := Pattern.ofCells pattern
  names.filter fun name => (dotted || name.head? != some '.') && p.fits name

def step (place : Place) (name : Octets) : Place :=
  let name := name.text
  if name == "." || name == "" then place
  else if name == ".." then place.dropLast
  else place ++ [name]

def advance (fs : FileSystem) (isLast : Bool) (found : Found) (component : List Cell) : List Found :=
  let slash : Octets := if isLast then [] else ['/']
  let isDir (p : Place) : Bool :=
    match fs.node? p with
    | some (.dir _) => true
    | _ => false
  let names :=
    if hasSigns component then if isDir found.place then namesIn fs found.place component else []
    else [component.map (·.1)]
  names.filterMap fun name =>
    let place := step found.place name
    let exists' := if isLast && !name.isEmpty then (fs.node? place).isSome else isDir place
    if exists' then some ⟨found.text ++ name ++ slash, place⟩ else none

def fitting (fs : FileSystem) (pattern : List Cell) : List Octets :=
  let absolute := (pattern.head?.map (·.1)) == some '/'
  let start : Found :=
    if absolute then ⟨['/'], []⟩ else ⟨[], fs.workingDir⟩
  let parts := components (if absolute then pattern.drop 1 else pattern)
  let rec go (found : List Found) : List (List Cell) → List Found
    | [] => found
    | part :: rest => go (found.flatMap fun f => advance fs rest.isEmpty f part) rest
  ((go [start] parts).map (·.text)).mergeSort Octets.le

end Stencil.Shell.FileName

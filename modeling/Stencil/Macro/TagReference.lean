import Stencil.Registry
import Stencil.Text.CharClass
import Stencil.Text.Search

/-!
# Tag references

`@Tags.name` stands for the quoted name of a registered tag. The first name that is not registered
becomes a placeholder and ends the resolution of names that have not been seen before it.
-/

namespace Stencil.Macro

def quoted (name : List Char) : List Char :=
  '"' :: name ++ ['"']

def tagNotFound : List Char :=
  quoted "TAG_NOT_FOUND".toList

def tagMark : List Char :=
  "@Tags.".toList

/-- The resolution of references so far: the names that were found, and the first that was not. -/
structure TagScan where
  resolved : List (List Char) := []
  missing : Option (List Char) := none

def TagScan.step (tags : TagRegistry) (scan : TagScan) (name : List Char) :
    List Char × List Warning × TagScan :=
  match scan.missing with
  | none =>
    if (tags.lookup (String.ofList name)).isSentinel then
      (tagNotFound, [.tagNotFound (String.ofList name)], { scan with missing := some name })
    else (quoted name, [], { scan with resolved := name :: scan.resolved })
  | some missing =>
    if missing = name then (tagNotFound, [], scan)
    else if scan.resolved.contains name then (quoted name, [], scan)
    else
      (tagMark ++ name, [.tagLeftUnresolved (String.ofList name) (String.ofList missing)], scan)

def resolveTagsFrom (tags : TagRegistry) (scan : TagScan) (text : List Char) :
    List Char × List Warning :=
  match _h : cutAt? tagMark text with
  | none => (text, [])
  | some (before, rest) =>
    let name := rest.takeWhile isWord
    if name.isEmpty then
      let (tail, warnings) := resolveTagsFrom tags scan rest
      (before ++ tagMark ++ tail, warnings)
    else
      let (reference, warnings, scan) := scan.step tags name
      let (tail, moreWarnings) := resolveTagsFrom tags scan (rest.dropWhile isWord)
      (before ++ reference ++ tail, warnings ++ moreWarnings)
termination_by text.length
decreasing_by
  · exact length_after_lt_of_cutAt? (by simp [tagMark]) _h
  · have := length_after_lt_of_cutAt? (by simp [tagMark]) _h
    exact Nat.lt_of_le_of_lt (List.dropWhile_suffix _).length_le this

def resolveTags (tags : TagRegistry) (text : List Char) : List Char × List Warning :=
  resolveTagsFrom tags {} text

end Stencil.Macro

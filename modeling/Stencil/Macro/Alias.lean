import Stencil.Text.CharClass
import Stencil.Text.Search

/-!
# The alias of the primary model

`@PrimaryModel` and `@PM`, where no word character follows, stand for the path of the primary model.
-/

namespace Stencil.Macro

def primaryModelPath : List Char :=
  "Microservice.PrimaryModel".toList

def aliases : List (List Char) :=
  ["@PrimaryModel".toList, "@PM".toList]

def afterAlias? (text : List Char) : Option (List Char) :=
  aliases.findSome? fun name =>
    match dropPrefix? name text with
    | some rest => if (rest.head?.map isWord).getD false then none else some rest
    | none => none

theorem length_lt_of_afterAlias? {text rest : List Char} (h : afterAlias? text = some rest) :
    rest.length < text.length := by
  obtain ⟨name, hname, h⟩ := List.exists_of_findSome?_eq_some h
  have hpos : 0 < name.length := by
    simp only [aliases, List.mem_cons, List.not_mem_nil, or_false] at hname
    rcases hname with rfl | rfl <;> simp
  split at h
  next r hr =>
    have := dropPrefix?_eq_some_iff.1 hr
    split at h
    · simp at h
    · simp only [Option.some.injEq] at h
      grind
  next => simp at h

def expandAliases (text : List Char) : List Char :=
  match _h : afterAlias? text with
  | some rest => primaryModelPath ++ expandAliases rest
  | none =>
    match text with
    | [] => []
    | c :: cs => c :: expandAliases cs
termination_by text.length
decreasing_by
  · exact length_lt_of_afterAlias? _h
  · simp

end Stencil.Macro

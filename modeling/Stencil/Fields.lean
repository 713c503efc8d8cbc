/-!
# Sorted fields

Objects and maps keep their fields in the order of their keys, each key once.
-/

namespace Stencil

/-- Gives the key `k` the value `v`; the fields stay sorted. -/
def putField {α : Type} (k : String) (v : α) : List (String × α) → List (String × α)
  | [] => [(k, v)]
  | (l, w) :: rest =>
    if k = l then (k, v) :: rest
    else if k < l then (k, v) :: (l, w) :: rest
    else (l, w) :: putField k v rest

/-- The fields in the order of their keys; of two values for one key the later one counts. -/
def sortFields {α : Type} (fields : List (String × α)) : List (String × α) :=
  fields.foldl (fun acc (k, v) => putField k v acc) []

end Stencil

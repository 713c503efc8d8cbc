import Stencil.Text.CharClass
import Stencil.Text.Search

/-!
# Target selections

Which targets a run generates: all of them, or those whose labels are listed.
-/

namespace Stencil

inductive Selection where
  | all
  | only (labels : List String)
  deriving DecidableEq, Repr

namespace Selection

/-- `*` selects all targets; any other text lists labels between commas. -/
def parse (raw : String) : Selection :=
  if trimBy isBlank raw.toList = ['*'] then .all
  else
    let labels := (splitOnChar ',' raw.toList).map (trimBy isBlank)
    .only ((labels.filter (!·.isEmpty)).map String.ofList)

def includes : Selection → String → Bool
  | all, _ => true
  | only labels, label => labels.any (· == label)

end Selection

end Stencil

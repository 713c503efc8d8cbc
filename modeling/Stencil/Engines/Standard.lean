import Stencil.Engines
import Stencil.Proofs.Render.Templates

/-!
# The standard engines

Statement templates and block templates as they are commonly written, without the rarer features of
either syntax.
-/

namespace Stencil.Engines

def statementText (host : Statement.Host) (template : List Char) (data : Json) :
    Rendering (List Char) :=
  match Statement.parse? template with
  | some nodes => Statement.write nodes { data, host }
  | none => throw .other

theorem ofHelpers_statementText (host : Statement.Host) (template : List Char) (data : Json) :
    OfHelpers (statementText host template data) := by
  unfold statementText
  split
  · exact Statement.ofHelpers_write _ _
  · exact .throw _

def standard (host : Statement.Host) : Engines where
  reads template := (Statement.parse? template).isSome
  render
    | .statements => statementText host
    | .blocks => Blocks.render
  ofHelpers_render
    | .statements => ofHelpers_statementText host
    | .blocks => Blocks.ofHelpers_render

end Stencil.Engines

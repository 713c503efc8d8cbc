import Stencil.Engine
import Stencil.RenderFault

/-!
# What renders templates

The engines are no part of the generator. It asks them whether a statement template can be read and
for the text that a template gives for data, and relies on it that they leave reporting to the
helpers that templates call.
-/

namespace Stencil

structure Engines where
  /-- Whether a statement template can be read. -/
  reads : List Char → Bool
  /-- The text of a template over data. A statement template has to be one that can be read. -/
  render : Engine → List Char → Json → Rendering (List Char)
  ofHelpers_render : ∀ e template data, OfHelpers (render e template data)

end Stencil

import Stencil.Macro.Alias
import Stencil.Macro.Shorthand
import Stencil.Macro.TagReference

/-!
# Macros

A template passes through three rewritings before it is rendered: tag shorthands, tag references and
the alias of the primary model. None of them looks at its own output.
-/

namespace Stencil.Macro

/-- Expands the macros of a template that is rendered for a primary model, or for a whole api. -/
def expand (tags : TagRegistry) (model : Option Model) (template : List Char) :
    List Char × List Warning :=
  let (expanded, warnings) := expandShorthands model template
  let (resolved, moreWarnings) := resolveTags tags expanded
  (expandAliases resolved, warnings ++ moreWarnings)

end Stencil.Macro

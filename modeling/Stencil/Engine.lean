import Stencil.Path

/-!
# Template engines

Which syntax a template file has follows from its extension.
-/

namespace Stencil

/-- The two template syntaxes: one with statements in `{% %}`, one with blocks in
`{{#each}} {{/each}}`. -/
inductive Engine where
  | statements
  | blocks
  deriving DecidableEq, Repr

namespace Engine

def name : Engine → String
  | statements => "tera"
  | blocks => "handlebars"

/-- The extensions of template files, in the order in which they are looked for. -/
def extensions : List String :=
  ["template", "tera", "gotemplate", "hbs", "handlebars"]

def ofPath (p : Path) : Engine :=
  match p.extension? with
  | some ext => if ext = "hbs".toList ∨ ext = "handlebars".toList then .blocks else .statements
  | none => .statements

end Engine

end Stencil

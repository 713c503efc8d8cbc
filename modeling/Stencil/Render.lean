import Stencil.Engines
import Stencil.GenerationError
import Stencil.Text.CharClass

/-!
# Rendering

The text that a template of either syntax gives for data, or the error of the step that failed.
-/

namespace Stencil

def failedStep (step : String) (refusal : Option HelperError) : GenerationError :=
  .render (step ++ ": ") refusal

/-- A text without the blanks around it, but with the last line break if it ended with one and is
not empty. -/
def tidy (s : List Char) : List Char :=
  let trimmed := trimBy isBlank s
  if !trimmed.isEmpty && s.getLast? == some '\n' then trimmed ++ ['\n'] else trimmed

namespace Engine

/-- Statement templates are read first and then rendered over an object, and their text is tidied;
block templates are read and rendered in one step. -/
def render (es : Engines) (e : Engine) (template : List Char) (data : Json) :
    Reporting GenerationError (List Char) :=
  let text : Reporting GenerationError (List Char) :=
    (es.render e template data).adapt fun why =>
      failedStep "Failed to render template" why.refusal?
  match e with
  | statements =>
    if es.reads template then
      match data with
      | .obj _ => tidy <$> text
      | _ => throw (failedStep "Invalid render context" none)
    else throw (failedStep "Failed to parse template" none)
  | blocks => text

end Engine

end Stencil

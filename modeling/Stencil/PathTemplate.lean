import Stencil.Context
import Stencil.Engines
import Stencil.Environment
import Stencil.GenerationError
import Stencil.Text.CharClass

/-!
# Path templates

The output path of a target is a statement template. It is read once for an api and rendered for the
api or for each of its microservices; then the home directory and variables are filled in.
-/

namespace Stencil

structure PathTemplate where
  raw : String

namespace PathTemplate

def compile (es : Engines) (raw : String) : Except GenerationError PathTemplate :=
  if es.reads raw.toList then .ok ⟨raw⟩ else .error (.pathTemplate raw "")

def path (es : Engines) (env : Environment) (t : PathTemplate) (data : Json) :
    Reporting GenerationError Path := do
  let text ← (es.render .statements t.raw.toList data).adapt fun why =>
    .pathTemplate t.raw "" why.refusal?
  pure (env.expandPath (trimBy isBlank text))

def forApi (es : Engines) (env : Environment) (t : PathTemplate) (api : Api) :
    Reporting GenerationError Path :=
  t.path es env (Context.forApi api)

def forMicroservice (es : Engines) (env : Environment) (t : PathTemplate) (api : Api)
    (ms : Microservice) : Reporting GenerationError Path :=
  t.path es env (Context.forMicroservice api ms)

end PathTemplate

end Stencil

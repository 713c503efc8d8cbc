import Stencil.Helper

/-!
# Render faults

Why a template cannot be rendered. Only the refusal of a helper is told apart.
-/

namespace Stencil

inductive RenderFault where
  | helper (e : HelperError)
  | other
  deriving DecidableEq, Repr

def RenderFault.refusal? : RenderFault → Option HelperError
  | helper e => some e
  | other => none

abbrev Rendering := Reporting RenderFault

def Rendering.ofHelper : HelperResult → Rendering Json
  | .ok (v, ws) => do
    Reporting.warn ws
    pure v
  | .error e => throw (.helper e)

end Stencil

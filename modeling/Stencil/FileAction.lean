import Stencil.FileSystem
import Stencil.GenerationError

/-!
# Actions on files

What generation and the programs that it starts do to files.
-/

namespace Stencil

/-- Something that reads and changes files, and may fail after it has changed some. -/
abbrev FileAction (α : Type) := ExceptT GenerationError (StateM FileSystem) α

end Stencil

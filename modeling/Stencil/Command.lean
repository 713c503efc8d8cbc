import Stencil.FileAction

/-!
# Commands

External programs, seen from outside: what they are given and what they answer.
-/

namespace Stencil

structure CommandResult where
  /-- Negative if the program did not end by itself. -/
  exitCode : Int
  stdout : String
  stderr : String
  deriving DecidableEq, Repr

def CommandResult.succeeded (r : CommandResult) : Bool :=
  r.exitCode == 0

structure Invocation where
  program : String
  args : List String
  stdin : String
  dir : Path
  deriving DecidableEq, Repr

/-- Runs programs, which see the files and may change them. -/
abbrev Executor := Invocation → FileAction CommandResult

end Stencil

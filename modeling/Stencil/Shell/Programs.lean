import Stencil.Shell.Program.Compare
import Stencil.Shell.Program.Condition
import Stencil.Shell.Program.Digest
import Stencil.Shell.Program.Dump
import Stencil.Shell.Program.Files
import Stencil.Shell.Program.Find
import Stencil.Shell.Program.Grep
import Stencil.Shell.Program.Launch
import Stencil.Shell.Program.Number
import Stencil.Shell.Program.Order
import Stencil.Shell.Program.Print
import Stencil.Shell.Program.Sed

/-!
# The programs of the system

What stands in the directories of the system, by name.
-/

namespace Stencil.Shell.Program

def ending (code : Nat) : Program :=
  fun _ => return .exited code

def sleep : Program := fun args => do
  if args.isEmpty then missingOperand "sleep" "missing operand".toList
  else
    let isTime (s : Octets) : Bool :=
      let digits := match s.getLast? with
        | some c => if "smhd".contains c then s.dropLast else s
        | none => []
      !digits.isEmpty && digits.all fun c => c.isDigit || c == '.'
    match args.find? (!isTime ·) with
    | some s => missingOperand "sleep" ("invalid time interval ".toList ++ quoted s)
    | none => return .success

/-- How many lines a program shows that would show them for as long as somebody reads. -/
def endless : Nat := 16384

def yes : Program := fun args => do
  let line := List.intercalate [' '] (if args.isEmpty then [['y']] else args) ++ ['\n']
  Act.print (List.replicate endless line).flatten
  return .success

/-- The programs of the system by their names; the shell is not among them. -/
def catalogue (spawn : Spawn) : List (String × Program) :=
  [("[", bracket "[: ".toList), ("base64", base64), ("basename", basename), ("cat", cat),
    ("chmod", chmod), ("cmp", cmp), ("comm", comm), ("cp", cp), ("cut", cut), ("diff", diff),
    ("dirname", dirname), ("echo", plainEcho), ("egrep", Grep.run "grep" true false),
    ("env", env spawn), ("expr", expr), ("false", ending 1), ("fgrep", Grep.run "grep" false true),
    ("find", find spawn), ("fold", fold), ("grep", Grep.run "grep" false false), ("head", head), ("ls", ls),
    ("md5sum", digest "md5sum" Digest.md5), ("mkdir", mkdir), ("mv", mv),
    ("nice", wrapper "nice" "n" spawn), ("nl", nl), ("nohup", wrapper "nohup" "" spawn), ("od", od),
    ("paste", paste), ("printenv", printenv), ("printf", printf "printf: ".toList), ("pwd", pwd), ("rev", rev), ("rm", rm),
    ("rmdir", rmdir), ("sed", Sed.run), ("seq", seq), ("sha1sum", digest "sha1sum" Digest.sha1),
    ("sha256sum", digest "sha256sum" Digest.sha256), ("sleep", sleep), ("sort", sort),
    ("sync", ending 0), ("tac", tac), ("tail", tail), ("tee", tee), ("test", test "test: ".toList),
    ("timeout", timeout spawn), ("touch", touch), ("tr", tr), ("true", ending 0), ("uniq", uniq),
    ("wc", wc), ("which", which), ("xargs", xargs spawn), ("yes", yes)]

def named (spawn : Spawn) (name : String) : Option Program :=
  (catalogue spawn).lookup name

def systemNames : List String :=
  "bash" :: "dash" :: "sh" :: (catalogue fun _ _ _ => return .error .notFound).map (·.1)

def isKnown (name : String) : Bool :=
  systemNames.contains name

end Stencil.Shell.Program

/-!
# Warnings

What the generator reports without giving up.
-/

namespace Stencil

inductive Warning where
  /-- A shorthand names a tag that no field of the model carries. -/
  | noFieldForTag (tag model : String)
  /-- A reference names a tag that is not registered. -/
  | tagNotFound (tag : String)
  /-- A reference is left as it is because an earlier one named an unknown tag. -/
  | tagLeftUnresolved (tag missing : String)
  /-- A directive has a value of another kind than the one asked for. -/
  | directiveKind (directive : String)
  /-- A template asks for the text of a directive that is no text; the value is in its own
  notation. -/
  | directiveNotText (directive value : String)
  /-- A template asks for the list of a directive that is no list. -/
  | directiveNotList (directive value : String)
  | importsNotFound (path : String)
  | importsUnreadable (path error : String)
  | targetNotDefined (target : String)
  /-- The command line names no command. -/
  | noCommand
  deriving DecidableEq, Repr

namespace Warning

def message : Warning → String
  | noFieldForTag .. => "Got no field for tag"
  | tagNotFound .. => "Tag not found"
  | tagLeftUnresolved .. => "Tag reference left unresolved after an earlier missing tag"
  | directiveKind .. => "Unsupported directive value type"
  | directiveNotText .. => "Directive is not a string"
  | directiveNotList .. => "Directive is not a list"
  | importsNotFound .. => "Imports file not found, continuing without it"
  | importsUnreadable .. => "Failed to read imports file, continuing without it"
  | targetNotDefined .. => "Skipped target because it was not defined"
  | noCommand => "Running codema without a subcommand is deprecated, use `codema generate`"

/-- What a warning is about, as named texts in the order in which they are printed. -/
def fields : Warning → List (String × String)
  | noFieldForTag tag model => [("tag", tag), ("model", model)]
  | tagNotFound tag => [("tag", tag)]
  | tagLeftUnresolved tag missing => [("tag", tag), ("missing", missing)]
  | directiveKind d => [("directive", d)]
  | directiveNotText d v | directiveNotList d v => [("directive", d), ("value", v)]
  | importsNotFound path => [("path", path)]
  | importsUnreadable path error => [("path", path), ("error", error)]
  | targetNotDefined target => [("target", target)]
  | noCommand => []

def origin : Warning → String
  | noFieldForTag .. | tagNotFound .. | tagLeftUnresolved .. => "codema::generation::preprocessor"
  | directiveKind .. => "codema::core::directive"
  | directiveNotText .. | directiveNotList .. => "codema::infrastructure::generation::functions"
  | importsNotFound .. | importsUnreadable .. => "codema::generation::snippets"
  | targetNotDefined .. => "codema::generation::orchestrator"
  | noCommand => "codema"

def isOfHelper : Warning → Bool
  | directiveNotText .. | directiveNotList .. => true
  | _ => false

def line (w : Warning) : String :=
  w.fields.foldl (fun text (key, value) => text ++ " " ++ key ++ "=" ++ value) w.message

end Warning

/-- Something that may fail and reports on the way. What has been reported stays if it fails. -/
abbrev Reporting (ε : Type) := ExceptT ε (StateM (List Warning))

def Reporting.warn {ε : Type} (ws : List Warning) : Reporting ε Unit :=
  modify (· ++ ws)

/-- All that is reported on the way comes from helpers. -/
def OfHelpers {ε α : Type} (r : Reporting ε α) : Prop :=
  ∀ ws, ∃ more, (r.run ws).2 = ws ++ more ∧ ∀ w ∈ more, w.isOfHelper = true

def Reporting.adapt {ε ε' α : Type} (r : Reporting ε α) (f : ε → ε') : Reporting ε' α :=
  ExceptT.adapt f r

end Stencil

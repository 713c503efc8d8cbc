import Stencil.GenerationError
import Stencil.Snippet.Marker
import Stencil.Version
import Stencil.Warning

/-!
# Snippets

Hand-written code is put into a template in front of the markers, implementation after
implementation, and at last the markers are removed.
-/

namespace Stencil.Snippet

abbrev Reading (α : Type) := Except GenerationError α × List Warning

def given (path : Option String) : Option String :=
  path.filter (· != "")

def hookText (fs : FileSystem) (dir : Path) (name : String) : List Char :=
  match fs.readText (dir.join (.ofString name)) with
  | .ok text => text.toList
  | .error _ => []

/-- Puts the files of a hooks directory in front of the markers that name them. -/
def insertHooks (fs : FileSystem) (dir : Path) (template : List Char) : List Char :=
  Marker.hook.replace (fun found => hookText fs dir found.name ++ found.text) template

/-- The content of an implementation, which has to be readable if a path is given. -/
def content (fs : FileSystem) (templates : Path) (paths : SnippetPaths) :
    Except GenerationError (List Char) :=
  match given paths.contentPath with
  | none => .ok []
  | some relative =>
    let path := Version.underTemplates templates relative
    match fs.readText path with
    | .ok text => .ok text.toList
    | .error e => .error (.snippetNotFound path e)

/-- The imports of an implementation; a file that cannot be read contributes nothing and is
reported. -/
def imports (fs : FileSystem) (templates : Path) (paths : SnippetPaths) :
    List Char × List Warning :=
  match given paths.importsPath with
  | none => ([], [])
  | some relative =>
    let path := Version.underTemplates templates relative
    match fs.readText path with
    | .ok text => (text.toList, [])
    | .error .notFound => ([], [.importsNotFound path.text])
    | .error e => ([], [.importsUnreadable path.text e.message])

def apply (fs : FileSystem) (templates : Path) (paths : SnippetPaths) (template : List Char) :
    Reading (List Char) :=
  let hooked := match given paths.hooksDirectory with
    | some dir => insertHooks fs (Version.underTemplates templates dir) template
    | none => template
  match content fs templates paths with
  | .error e => (.error e, [])
  | .ok content =>
    let (imports, warnings) := imports fs templates paths
    let filled := Marker.implementations.insertBefore content hooked
    (.ok (Marker.imports.insertBefore imports filled), warnings)

def applyAll (fs : FileSystem) (templates : Path) :
    List SnippetPaths → List Char → Reading (List Char)
  | [], template => (.ok template, [])
  | paths :: rest, template =>
    match apply fs templates paths template with
    | (.error e, warnings) => (.error e, warnings)
    | (.ok template, warnings) =>
      let (result, more) := applyAll fs templates rest template
      (result, warnings ++ more)

def forTarget (label : String) (ms : Option Microservice) : List SnippetPaths :=
  match ms with
  | some ms => ms.implementations.filterMap (·.targetSnippets.lookup label)
  | none => []

/-- Puts the snippets of a microservice for a target into a template, without leaving markers. For a
whole api there are no snippets. -/
def inject (fs : FileSystem) (templates : Path) (label : String) (ms : Option Microservice)
    (template : List Char) : Reading (List Char) :=
  let (result, warnings) := applyAll fs templates (forTarget label ms) template
  (result.map Marker.collapse, warnings)

end Stencil.Snippet

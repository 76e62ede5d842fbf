import DocSite.FileTree.Scan
import DocSite.FileTree.Text
import DocSite.Tutorial.Hierarchy
import DocSite.Yaml

/-! Tutorials in a directory. Every file in it or in its directories that ends as a
page does is a tutorial, named by the file without its ending; of two with one name
the first counts. Files that end as structured data hold parts of the hierarchy. -/

namespace DocSite

inductive TutorialError
  | text (cause : TextError)
  | malformed (cs : List Char) (fault : Yaml.Fault)
  | notMapping (path : String)
  | noChildren
deriving DecidableEq, Repr

def TutorialError.message : TutorialError → String
  | .text cause => cause.message
  | .malformed cs fault => fault.message cs
  | .notMapping path => path ++ " must contain a mapping of tutorial names"
  | .noChildren => "children cannot be listed"

namespace TutorialTree

inductive FileRole
  | hierarchy
  | page (format : ContentFormat)
deriving DecidableEq, Repr

def roleOf? (p : Path) : Option FileRole :=
  let ending := Text.lower p.suffix
  if [".json", ".yaml", ".yml"].contains ending then some .hierarchy
  else if [".md", ".markdown"].contains ending then some (.page .markdown)
  else if [".html", ".htm"].contains ending then some (.page .html)
  else none

/-- Tutorials at the top level, and the entries of the hierarchy. -/
structure Loaded where
  tree : TutorialTree
  hierarchy : List (Datum × Datum)

section Loader
variable (yaml : Yaml.Loader) (files : FileTree)

/-- The mapping in a file of the hierarchy; what counts as false is an empty one. -/
def readHierarchy (p : Path) : Except TutorialError (List (Datum × Datum)) := do
  let text ← (files.readText FileTree.plainEncoding p).mapError .text
  let value ← (yaml text).mapError (.malformed text)
  match value with
  | .dict entries => return entries
  | other => if other.truthy then throw (.notMapping p.text) else return []

/-- Adds what a file holds. -/
def addFile (loaded : Loaded) (p : Path) : Except TutorialError Loaded := do
  (FileTree.checkLength p).mapError (.text ∘ .file)
  if p.name.toList.head? == some '.' then return loaded
  match roleOf? p with
  | none => return loaded
  | some .hierarchy =>
    let entries ← readHierarchy yaml files p
    return { loaded with
      hierarchy := entries.foldl (fun all e => Datum.putEntry all e.1 e.2) loaded.hierarchy }
  | some (.page format) =>
    if (loaded.tree.find? p.stem).isSome then return loaded
    let text ← (files.readText FileTree.plainEncoding p).mapError .text
    return { loaded with tree := loaded.tree.addTop ⟨p.stem, p.stem, .ofList text, format⟩ }

def readFiles (directory : Path) : Except TutorialError Loaded := do
  let found ← (files.walkBelow directory).mapError (.text ∘ .file)
  let paths := found.filterMap fun (p, entry) => match entry with
    | .file _ => some p
    | .directory => none
  paths.foldlM (addFile yaml files) ⟨empty, []⟩

def load (directory : Path) : Except TutorialError TutorialTree := do
  let loaded ← readFiles yaml files directory
  match applyAll loaded.tree none (HierarchyEntry.ofEntries loaded.hierarchy) with
  | some tree => return tree
  | none => throw .noChildren

end Loader

end TutorialTree

end DocSite

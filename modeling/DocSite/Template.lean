import DocSite.FileTree.Text
import DocSite.Template.Asset
import DocSite.View

/-! Templates. The standard template has a view for every kind of page and its static
files at a fixed place. A template in a directory has the views that are found there,
which an engine shows that a run is given. The plain engine shows what has no directives
in it: the text of the file, whatever the data. A view that is not there shows nothing. -/

namespace DocSite

/-- What shows the data of a page. -/
inductive TemplateView
  | standard (view : View)
  | file (path : Path)
deriving DecidableEq, Repr

/-- Views by name, and the directory of static files. -/
structure Template where
  views : Dict String TemplateView
  staticFiles : Path
deriving Repr

/-- Why a page could not be shown. A view in a file may also end by an error of its own. -/
inductive TemplateError
  | view (cause : ViewError)
  | text (cause : TextError)
  | raised (kind message : String)
deriving DecidableEq, Repr

/-- What shows the view in a file: the page of some data, with the links of a registry. It does
not change the registry. -/
abbrev Engine := FileTree → LinkRegistry → Path → Datum → Except TemplateError String

namespace Template

def home : Path := ⟨.root, ["usr", "share", "docsite", "template"]⟩

def staticName : String := "static"

def viewsName : String := "views"

def standard : Template where
  views := View.all.map fun v => (v.label, .standard v)
  staticFiles := home.child staticName

/-- Puts the static files of the standard template into a tree. -/
def install (t : FileTree) : FileTree :=
  let root := home.parts ++ [staticName]
  assets.foldl (fun t a =>
    (t.putDirectories (root ++ a.place.dropLast)).putFile (root ++ a.place)
      (Text.encodeUtf8 a.text.toList)) t

def isView (p : Path) : Bool :=
  [".html", ".js"].contains p.suffix && p.name.toList.head? != some '_'

/-- The files in a directory, ordered by name. -/
def filesIn (t : FileTree) (directory : Path) : Except FileError (List Path) := do
  if !(← t.isDirectory directory) then return []
  match t.locate directory with
  | .error _ => return []
  | .ok (place, _) =>
    let names := (t.namesAt place).mergeSort (· ≤ ·)
    (names.map directory.child).filterM fun p => t.isFile p

/-- The template in a directory. Of two views with one name the later file counts. -/
def ofDirectory (t : FileTree) (directory : Path) : Except FileError Template := do
  let files ← filesIn t (directory.child viewsName)
  let views := (files.filter isView).map fun p => (p.stem, TemplateView.file p)
  return ⟨Dict.ofEntries views, directory.child staticName⟩

/-- The text of a view in a file, without one line feed at its end. -/
def viewText (cs : List Char) : String :=
  let cs := Text.unifyBreaks false cs
  .ofList (if cs.getLast? == some '\n' then cs.dropLast else cs)

/-- Shows the data of a page with the view of a name. -/
def render (engine : Engine) (template : Template) (t : FileTree) (r : LinkRegistry)
    (name : String) (data : Datum) : Except TemplateError String :=
  match template.views.get? name with
  | none => .ok ""
  | some (.standard view) => (View.render r data view).mapError .view
  | some (.file path) => engine t r path data

end Template

def Engine.plain : Engine := fun t _ path data =>
  match t.isFile path with
  | .ok false => .ok ""
  | .error e => .error (.text (.file e))
  | .ok true => do
    let cs ← (t.readText FileTree.plainEncoding path).mapError .text
    (View.checkFree data View.wholeName).mapError .view
    return Template.viewText cs

end DocSite

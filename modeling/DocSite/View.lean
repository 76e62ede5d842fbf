import DocSite.View.Value
import DocSite.Longname

/-! The views of the standard template. Each shows the data of one kind of page as
markup; the layout puts it between the head of the page and a footer that names
the package. -/

namespace DocSite

inductive View
  | globals
  | index
  | source
  | symbol
  | toc
  | tutorial
deriving DecidableEq, Repr

namespace View

def all : List View := [globals, index, source, symbol, toc, tutorial]

def label : View → String
  | globals => "globals"
  | index => "index"
  | source => "source"
  | symbol => "symbol"
  | toc => "toc"
  | tutorial => "tutorial"

open ViewValue

variable (r : LinkRegistry) (data : Datum)

def field (name : String) : ViewValue := data.field? name

/-- A link to what a value names. What counts as false names nothing, and what else is
no text cannot be linked to. -/
def link (target : ViewValue) (label : String) : Except ViewError String :=
  match target with
  | some (.text s) => .ok (r.linkTo s (.plain label) none none)
  | target => if target.isTarget && !target.isTrue then .ok (Text.escape label)
      else .error .notTarget

/-- A value in a heading, as the footer and the page of the package show it. -/
def versionAfter (mark ending : String) (package : ViewValue) : Except ViewError String := do
  let version ← (← package.part "doclet").part "version"
  guarded version.isTrue (return mark ++ version.shown ++ ending)

/-- The description of a doclet, which is markup. -/
def description (doclet : ViewValue) : Except ViewError String := do
  let text ← doclet.part "description"
  guarded text.isTrue (return "<div class=\"description\">" ++ text.markup ++ "</div>")

def footer (package : ViewValue) : Except ViewError String := do
  if !package.isTrue then return ""
  let name ← package.part "name"
  guarded name.isTrue do
    return name.shown ++ (← versionAfter " " "" package)

/-- A whole page around its content. -/
def layout (content : String) : Except ViewError String := do
  let foot ← footer (field data "package")
  return "<!DOCTYPE html>\n<html lang=\"en\">\n<head>\n  <meta charset=\"utf-8\">\n" ++
    "  <title>" ++ (field data "page_title").shown ++ "</title>\n" ++
    "  <link rel=\"stylesheet\" href=\"styles/baseline.css\">\n" ++
    "  <script src=\"scripts/toc.js\"></script>\n" ++
    "  <script src=\"scripts/baseline-toc.js\" defer></script>\n" ++
    "</head>\n<body>\n  <nav id=\"toc\"></nav>\n  <main>\n" ++ content ++
    "  </main>\n  <footer>\n" ++ foot ++ "  </footer>\n</body>\n</html>"

/-- The heading that repeats the title of the page. -/
def heading (title : ViewValue) : String := "<h1>" ++ title.shown ++ "</h1>\n"

/-! ### Symbols -/

/-- A list under a heading, unless it is empty. -/
def headedList (title kind : String) (items : ViewValue)
    (body : ViewValue → Except ViewError String) : Except ViewError String :=
  guarded items.isTrue do
    return "  <h4>" ++ title ++ "</h4>\n  <ul class=\"" ++ kind ++ "\">\n" ++
      (← items.each fun item => return "<li>" ++ (← body item) ++ "</li>") ++ "  </ul>\n"

def ancestors (symbol : ViewValue) : Except ViewError String := do
  let around ← symbol.part "ancestors"
  guarded around.isTrue do
    return "<span class=\"ancestors\">" ++
      (← around.each fun a => do link r a (Longname.displayName (← a.longname))) ++ "</span>"

def variation (doclet : ViewValue) : Except ViewError String := do
  let variation ← doclet.part "variation"
  guarded variation.isTrue
    (return "<span class=\"variation\">(" ++ variation.shown ++ ")</span>")

def exampleFigure (e : ViewValue) : Except ViewError String := do
  let caption ← e.part "caption"
  let code ← e.part "code"
  return "  <figure class=\"example\">\n" ++
    (if caption.isTrue then "<figcaption>" ++ caption.shown ++ "</figcaption>" else "") ++
    "    <pre><code>" ++ code.shown ++ "</code></pre>\n  </figure>\n"

/-- Where the source of a symbol is: the page of the file, and the line if it is known. -/
def sourceLine (symbol doclet : ViewValue) : Except ViewError String := do
  let path ← symbol.part "shortpath"
  guarded path.isTrue do
    let location ← doclet.part "meta"
    let line ← if location.isTrue then location.part "lineno" else pure none
    return "  <p class=\"source\">Source: " ++ (← link r path path.markup) ++
      (if line.isTrue then ", line " ++ line.shown else "") ++ "</p>\n"

def symbolSection (symbol : ViewValue) : Except ViewError String := do
  let id ← symbol.part "id"
  let name ← symbol.part "name"
  let doclet ← symbol.part "doclet"
  return "<section class=\"symbol\" id=\"" ++ (if id.isTrue then id.shown else "") ++
    "\">\n  <h3>\n" ++ (← ancestors r symbol) ++ "    " ++ name.shown ++ "\n" ++
    (← variation doclet) ++ "  </h3>\n" ++ (← description doclet) ++
    (← headedList "Listeners" "listeners" (← symbol.part "listeners")
      fun l => link r l l.markup) ++
    (← headedList "Listens to" "listens" (← doclet.part "listens")
      fun e => link r e e.markup) ++
    (← (← symbol.part "examples").each exampleFigure) ++
    (← headedList "See" "see" (← symbol.part "see") fun e => return e.shown) ++
    (← sourceLine r symbol doclet) ++ "</section>\n"

def memberSections (members : ViewValue) : Except ViewError String := do
  return String.join (← (← members.entries).mapM fun (category, symbols) => do
    let name := category.display
    let sections ← ViewValue.each (some symbols) (symbolSection r)
    return "<section class=\"members " ++ Text.escape name ++ "\">\n  <h2>" ++
      Text.escape (Text.capitalized name) ++ "</h2>\n" ++ sections ++ "</section>\n")

/-! ### Pages -/

/-- A documented symbol with what it exports. -/
def documented (doc : ViewValue) : Except ViewError String := do
  let exported ← doc.part "exports"
  return (← symbolSection r doc) ++ "\n" ++
    (← guarded exported.isTrue do
      return "<section class=\"exports\">\n  <h2>Exports</h2>\n  " ++
        (← symbolSection r exported) ++ "\n</section>\n")

def packageSection (package : ViewValue) : Except ViewError String := do
  let name ← package.part "name"
  return "<section class=\"package\">\n  <h1>" ++ name.shown ++
    (← versionAfter " <small>" "</small>" package) ++ "</h1>\n" ++
    (← description (← package.part "doclet")) ++ "</section>\n"

/-- Refuses data that has a value under a name which the view needs for itself. -/
def checkFree (name : String) : Except ViewError Unit :=
  if (field data name).isSome then .error (.nameTaken name) else .ok ()

/-- The name of the data as a whole. -/
def wholeName : String := "self"

/-- The name under which the page of a tutorial finds how to link to another one. -/
def tutorialLinkName : String := "tutoriallink"

/-- A child of a tutorial, as a link; without a title it shows the name. -/
def childItem (child : ViewValue) : Except ViewError String := do
  let name ← child.part "name"
  let title ← child.part "title"
  checkFree data tutorialLinkName
  let label := match title with
    | some .null => name.markup
    | title => title.markup
  if !name.isTarget then throw .notTarget
  return "<li>" ++ (match name with
    | some (.text s) => r.tutorialLink s (.plain label)
    | _ => missingTutorial (.plain label)) ++ "</li>"

/-- What a view shows between head and footer. The table of contents is no page. -/
def content : View → Except ViewError String
  | symbol => do
    return heading (field data "page_title") ++
      (← (field data "docs").each (documented r)) ++
      (← memberSections r (field data "members")) ++ "\n"
  | globals => do
    return heading (field data "page_title") ++
      (← memberSections r (field data "members")) ++ "\n"
  | source => .ok <| heading (field data "page_title") ++
      "<pre class=\"source\"><code>" ++ (field data "code").shown ++ "</code></pre>\n"
  | index => do
    let readme := field data "readme"
    return (← (field data "packages").each packageSection) ++
      (if readme.isTrue then "<section class=\"readme\">" ++ readme.markup ++ "</section>\n"
        else "")
  | tutorial => do
    let children := field data "children"
    return heading (field data "header") ++
      "<article class=\"tutorial\">" ++ (field data "content").markup ++ "</article>\n" ++
      (← guarded children.isTrue do
        return "<ul class=\"tutorial-children\">\n" ++ (← children.each (childItem r data)) ++
          "</ul>\n")
  | toc => .ok ""

def render (view : View) : Except ViewError String := do
  checkFree data wholeName
  match view with
  | toc => return "window.baselineToc = " ++ (field data "toc_json").markup ++ ";"
  | page => layout data (← content r data page)

end View

end DocSite

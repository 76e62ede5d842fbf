import DocSite.Build.PageData
import DocSite.FileTree.Transfer
import DocSite.Json.Printer
import DocSite.Link.Inline
import DocSite.Toc
import DocSite.Tools

/-! A build of a site. It knows what the pages are made from, has its tools, and keeps the
files and the outcome so far: the pages written, the static files copied, and what failed.
A page that cannot be written is noted as a failure and the build goes on; what
else goes wrong ends the step, and what was done before it stays done. -/

namespace DocSite

inductive BuildStage
  | source
  | write
  | static
deriving DecidableEq, Repr

def BuildStage.label : BuildStage → String
  | .source => "source"
  | .write => "write"
  | .static => "static"

/-- A failure that a build goes on after. -/
structure BuildFailure where
  stage : BuildStage
  path : String
  message : String
deriving DecidableEq, Repr

/-- What pages are made from and with, the files, and the outcome so far. -/
structure Build where
  template : Template
  index : SymbolIndex
  destination : Path
  config : Config
  base : Path
  tools : Tools := {}
  files : FileTree
  written : List Path := []
  copied : List Path := []
  failures : List BuildFailure := []

/-- Why a step of a build, or the build itself, ended early. What is raised comes from a view. -/
inductive BuildError
  | unfinished
  | index (cause : IndexError)
  | link (cause : LinkError)
  | text (cause : TextError)
  | view (cause : ViewError)
  | raised (kind message : String)
  | reference (cause : Text.DigitExcess)
deriving DecidableEq, Repr

namespace BuildError

def file (cause : FileError) : BuildError := .text (.file cause)

def ofTemplate : TemplateError → BuildError
  | .view cause => .view cause
  | .text cause => .text cause
  | .raised kind message => .raised kind message

end BuildError

namespace Build

/-- A build of a finished index. -/
def start (template : Template) (index : SymbolIndex) (destination : Path) (config : Config)
    (base : Path) (files : FileTree) (tools : Tools := {}) : Except BuildError Build :=
  if index.finalized then .ok { template, index, destination, config, base, tools, files }
  else .error .unfinished

variable (b : Build)

def registry : LinkRegistry := b.index.registry

def isOk : Bool := b.failures.isEmpty

def pageTitle (title : String) : String := b.config.titleLead ++ title

/-- The file that the page of an address is written to. -/
def outputPath (url : String) : Path :=
  b.destination.join (.ofString (Text.percentDecode (splitFragment url).1))

/-- The outcome as structured data; a written file that is not in the destination has no place
in it. -/
def summary : Except (Path × Path) Datum := do
  let written ← b.written.mapM fun p =>
    if p.start = b.destination.start ∧ b.destination.parts.isPrefixOf p.parts then
      pure (Path.text ⟨.here, p.parts.drop b.destination.parts.length⟩)
    else throw (p, b.destination)
  return .ofFields [("ok", .bool b.isOk), ("destination", .text b.destination.text),
    ("written", .ofTexts written), ("copied", .int b.copied.length),
    ("failures", .list (b.failures.map fun f => .ofFields
      [("stage", .text f.stage.label), ("path", .text f.path), ("message", .text f.message)]))]

end Build

abbrev BuildM := ExceptT BuildError (StateM Build)

namespace BuildM

/-- Runs an operation on the files of the build, and gives its outcome. -/
def onFiles {ε α : Type} (x : ExceptT ε (StateM FileTree) α) : BuildM (Except ε α) := do
  let b ← get
  let (result, files) := x.run.run b.files
  set { b with files }
  return result

def fail (failure : BuildFailure) : BuildM Unit :=
  modify fun b => { b with failures := b.failures ++ [failure] }

def makeDestination : BuildM Unit := do
  match ← onFiles (FileM.makeDirectories (← get).destination) with
  | .ok () => return
  | .error e => throw (.file e)

/-- Writes a file, and tells whether that went well. -/
def write (path : Path) (text : String) : BuildM Bool := do
  let b ← get
  match ← onFiles (TextM.write b.tools.codecs b.config.encoding path text.toList) with
  | .ok () =>
    modify fun b => { b with written := b.written ++ [path] }
    return true
  | .error e =>
    if !e.isRefusal then throw (.text e)
    fail ⟨.write, path.text, e.message⟩
    return false

/-- The fields that every page has besides its own. -/
def withCommon (b : Build) : Datum → Datum
  | .dict entries =>
    let put (entries : List (Datum × Datum)) (name : String) (value : Datum) :=
      if (Datum.lookup? entries (.text name)).isSome then entries
      else entries ++ [(.text name, value)]
    .dict (put (put entries "package" b.index.packageData) "page_title_prefix"
      (.text b.config.titleLead))
  | other => other

/-- Shows the data of a page with a view and writes the page of an address. The links in it
are resolved if asked for. -/
def generate (view : String) (data : Datum) (url : String) (resolves : Bool) : BuildM Unit := do
  let b ← get
  match b.template.render b.tools.engine b.files b.registry view (withCommon b data) with
  | .error e => throw (.ofTemplate e)
  | .ok page =>
    let text ← if resolves then
        MonadExcept.ofExcept ((b.registry.resolveLinks page).mapError .reference)
      else pure page
    let _ ← write (b.outputPath url) text

/-- The path of a source file, seen from the directory that relative ones are in. -/
def sourcePath (b : Build) (path : String) : Path := b.base.join (.ofString path)

/-- Writes the page of a source file. One that cannot be read is noted. -/
def sourcePage (path shown : String) : BuildM Unit := do
  let b ← get
  let some url := b.registry.urlFor shown | throw (.link (.noSourcePage shown))
  match b.files.readTextBy b.tools.codecs b.config.encoding (sourcePath b path) with
  | .ok code =>
    generate "source" (.ofFields [("code", .text (.ofList code)), ("shortpath", .text shown),
      ("page_title", .text (b.pageTitle ("Source: " ++ shown)))]) url false
  | .error e =>
    let isNoted := match e with
      | .codec (.undecodable _) => true
      | e => e.isRefusal
    if !isNoted then throw (.text e)
    fail ⟨.source, path, e.message⟩

/-- Writes the pages of all source files, if the settings ask for them. -/
def sourcePages : BuildM Unit := do
  let b ← get
  if !b.config.writesSources then return
  b.index.shortPaths.forM fun (path, shown?) =>
    match shown? with
    | none | some "" => pure ()
    | some shown => sourcePage path shown

def globalsPage : BuildM Unit := do
  let b ← get
  if !b.index.globals.hasSymbols none then return
  generate "globals" (.ofFields [("members", b.index.bucketData b.index.globals),
    ("page_title", .text (b.pageTitle Category.globals.titleLead))]) LinkRegistry.globalUrl true

/-- The title of the front page of a site without a package. -/
def homeTitle : String := "Home"

/-- Writes the front page. -/
def indexPage (readme : Option String) : BuildM Unit := do
  let b ← get
  generate "index" (.ofFields [("packages", b.index.symbolsData b.index.packages),
    ("readme", .ofText? readme),
    ("page_title", .text (b.pageTitle (b.index.packageName?.getD homeTitle)))])
    LinkRegistry.indexUrl true

def packageLead : String := "package:"

def pageCategories (b : Build) (longname : String) : List Category :=
  Category.all.filter fun c => c.hasPage && (b.index.symbolsFor longname).hasSymbols (some c)

/-- Writes the page of a longname, if it has one. That of a package is the front page. -/
def symbolPage (longname : String) : BuildM Unit := do
  let b ← get
  if packageLead.toList.isPrefixOf longname.toList then return
  match pageCategories b longname with
  | [] => return
  | first :: rest =>
    let some url := b.registry.urlFor longname | throw (.link (.noPage longname))
    let symbols := b.index.symbolsFor longname
    generate "symbol" (.ofFields
      [("docs", b.index.symbolsData ((first :: rest).flatMap symbols.get)),
       ("categories", .ofTexts ((first :: rest).map Category.label)),
       ("members", b.index.bucketData (b.index.membersOf longname)),
       ("page_title", .text (b.pageTitle (first.titleLead ++ Longname.displayName longname)))])
      url true

def symbolPages : BuildM Unit := do
  (← get).index.outputLongnames.forM symbolPage

def tutorialPage (tree : TutorialTree) (i : Nat) (t : Tutorial) : BuildM Unit := do
  let b ← get
  let some url := b.registry.tutorialUrl t.name | throw (.link (.noTutorialPage t.name))
  let children := (tree.childrenOf i).filterMap tree.tutorial?
  generate "tutorial" (.ofFields
    [("page_title", .text (b.pageTitle ("Tutorial: " ++ t.title))), ("header", .text t.title),
     ("content", .text (t.markup b.tools.markdown)),
     ("children", .list (children.map Tutorial.linkData))]) url true

def tutorialPages (tree : TutorialTree) : BuildM Unit :=
  tree.flatten.forM fun i =>
    match tree.tutorial? i with
    | some t => tutorialPage tree i t
    | none => pure ()

def tocEntries (b : Build) : List TocEntry := TocEntry.ofTree b.registry b.index.navTree

/-- The address of the file that holds the table of contents. -/
def tocUrl : String := "scripts/toc.js"

def tocFile : BuildM Unit := do
  let entries := (tocEntries (← get)).map TocEntry.data
  generate "toc" (.ofFields [("toc_json", .text (Json.render true (.list entries)))]) tocUrl false

def staticFiles : BuildM Unit := do
  let b ← get
  match ← onFiles (Transfer.staticFiles b.template.staticFiles b.destination
      b.config.staticFiles b.base) with
  | .error e => throw (.file e)
  | .ok outcome =>
    modify fun b => { b with copied := b.copied ++ outcome.copied }
    outcome.failed.forM fun (p, e) => fail ⟨.static, p.text, e.message⟩

/-- Writes all pages. Source pages come first, so that later pages can link to them. -/
def wholeSite (tree : TutorialTree) (readme : Option String) : BuildM Unit := do
  makeDestination
  sourcePages
  globalsPage
  indexPage readme
  symbolPages
  tutorialPages tree
  tocFile
  staticFiles

end BuildM

end DocSite

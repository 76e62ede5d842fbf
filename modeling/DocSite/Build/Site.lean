import DocSite.Build
import DocSite.Doclet.Store

/-! Whole sites: what a site is made from, and the build that makes it. -/

namespace DocSite

/-- What a site is made from, and with which tools. Without a template of its own it has the
standard one. -/
structure SiteRequest where
  doclets : List Doclet
  destination : Path
  config : Config := .standard
  tutorials : TutorialTree := .empty
  readme : Option String := none
  template : Option Path := none
  base : Path
  tools : Tools := {}

namespace SiteRequest

/-- A registry in which the tutorials of a tree have their addresses. -/
def registryFor (tree : TutorialTree) : LinkRegistry :=
  tree.tutorials.foldl (fun r t => (r.registerTutorial t.name).2) .fresh

/-- The finished index of the doclets. -/
def index (q : SiteRequest) : Except IndexError SymbolIndex :=
  ((SymbolIndex.empty (registryFor q.tutorials) q.config.writesSources).ingest q.doclets).finalize

def templateIn (q : SiteRequest) (t : FileTree) : Except FileError Template :=
  match q.template with
  | some directory => Template.ofDirectory t directory
  | none => .ok .standard

/-- The build of the site before its first step. The addresses in the index are encoded before
the template is looked for. -/
def prepare (q : SiteRequest) (t : FileTree) : Except BuildError Build := do
  let index ← q.index.mapError .index
  index.registry.checkAddresses.mapError fun cause => .index (.address cause)
  let template ← (q.templateIn t).mapError .file
  Build.start template index q.destination q.config q.base t q.tools

/-- Builds the site. The files are as the build left them, also where it ended early. -/
def build (q : SiteRequest) (t : FileTree) : Except BuildError Build × FileTree :=
  match q.prepare t with
  | .error e => (.error e, t)
  | .ok b =>
    let (result, b) := (BuildM.wholeSite q.tutorials q.readme).run.run b
    (result.map fun _ => b, b.files)

end SiteRequest

end DocSite

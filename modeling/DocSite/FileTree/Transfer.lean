import DocSite.Config
import DocSite.FileTree.Scan

/-! Static files in a site. The files of the template are copied first, then those
found under the configured paths that are not filtered out. A file that cannot be
copied is noted with the reason and the others are copied all the same. -/

namespace DocSite

/-- Which files may be copied. Patterns look at the text of a path; an excluded place
excludes all below it, however the path is written. -/
structure FileFilter where
  include? : Option Pattern
  exclude? : Option Pattern
  excluded : List (List String)

namespace FileFilter

/-- Lets every file pass. -/
def all : FileFilter := ⟨none, none, []⟩

/-- The filter that settings describe, with paths seen from a directory. -/
def ofConfig (t : FileTree) (base : Path) (s : StaticFiles) : Except FileError FileFilter :=
  return { include? := s.include?.map PathPattern.pattern
           exclude? := s.exclude?.map PathPattern.pattern
           excluded := ← s.excluded.mapM fun item => t.resolve? (base.join (.ofString item)) }

def passes (f : FileFilter) (t : FileTree) (p : Path) : Bool :=
  f.include?.all (·.occursIn p.text) && !f.exclude?.any (·.occursIn p.text) &&
    !f.excluded.any fun place => place.isPrefixOf (t.resolve p)

@[simp] theorem passes_all (t : FileTree) (p : Path) : all.passes t p = true := rfl

end FileFilter

/-- Where files were copied to, and which could not be copied. -/
structure Transfer where
  copied : List Path := []
  failed : List (Path × FileError) := []
deriving Repr

namespace Transfer

/-- The directory whose parts a copy leaves out: the scanned one, or that of a single file. -/
def baseOf (t : FileTree) (source : Path) : Except FileError Path :=
  return if ← t.isFile source then source.parent else source

/-- Where a file below a base is copied to. -/
def targetOf (base destination p : Path) : Path :=
  { destination with parts := destination.parts ++ p.parts.drop base.parts.length }

/-- Copies a file into a directory that is made if it is not there. -/
def place (p target : Path) : FileM Unit := do
  FileM.makeDirectories target.parent
  FileM.copy p target

def addFile (base destination : Path) (outcome : Transfer) (p : Path) : FileM Transfer := do
  let target := targetOf base destination p
  tryCatch (place p target *> pure { outcome with copied := outcome.copied ++ [target] })
    fun e => if e.isRefusal then
      pure { outcome with failed := outcome.failed ++ [(p, e)] } else throw e

/-- Copies what a scan of a path finds and a filter lets pass. -/
def addTree (source destination : Path) (filter : FileFilter) (outcome : Transfer) :
    FileM Transfer := do
  let base ← FileM.reading fun t => baseOf t source
  let found ← FileM.reading fun t => t.scan source FileTree.scanDepth
  let t ← get
  (found.filter (filter.passes t)).foldlM (addFile base destination) outcome

/-- Copies the files of a template, and then those that settings add. -/
def staticFiles (templateFiles destination : Path) (s : StaticFiles) (base : Path) :
    FileM Transfer := do
  let outcome ← addTree templateFiles destination .all {}
  if s.paths.isEmpty then return outcome
  let filter ← FileM.reading fun t => FileFilter.ofConfig t base s
  s.paths.foldlM (fun outcome path =>
    addTree (base.join (.ofString path)) destination filter outcome) outcome

end Transfer

end DocSite

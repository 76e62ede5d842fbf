import DocSite.Link.Registry
import DocSite.NavTree
import DocSite.SourcePath
import DocSite.Symbol.Bucket

/-! The index of symbols. Doclets are added one by one. One whose kind is unknown
is skipped; every other becomes a symbol, which is retained and is filed by its
category, its longname, its enclosing longname and the events it listens to. A
global symbol is filed with the globals only, and an export of a module is held
back until its module is known. Symbols are referred to by their places among
the retained ones. -/

namespace DocSite

/-- The symbols of a site and the tables that find them. -/
structure SymbolIndex where
  registry : LinkRegistry
  registersSources : Bool
  retained : List Symbol := []
  skipped : List Doclet := []
  symbols : Bucket := {}
  globals : Bucket := {}
  byLongname : Dict String Bucket := []
  byMemberof : Dict String Bucket := []
  listeners : Dict String Bucket := []
  shortPaths : Dict String (Option String) := []
  outputLongnames : List String := []
  exportCandidates : List Nat := []
  navTree : NavTree := []
  finalized : Bool := false
deriving Repr

inductive IndexError
  | addAfterEnd
  | finalizeTwice
  | link (error : LinkError)
  | address (cause : Text.EncodeError)
deriving DecidableEq, Repr

def IndexError.message : IndexError → String
  | .addAfterEnd => "cannot add doclet: index is already finalized"
  | .finalizeTwice => "cannot finalize: index is already finalized"
  | .link error => error.message
  | .address cause => cause.message

namespace Symbol

/-- An entry of the see list. One that is a hash and a word stands for a link to
that place on the page of the symbol. -/
def seeEntry (longname : Option String) (entry : String) : String :=
  match entry.toList, longname with
  | '#' :: c :: cs, some longname =>
    if Text.isBlank c then entry
    else
      let target := String.ofList (Text.firstWord (c :: cs))
      "\x7b@link " ++ longname ++ "#" ++ target ++ "|" ++ target ++ "\x7d"
  | _, _ => entry

end Symbol

namespace SymbolIndex

def empty (registry : LinkRegistry) (registersSources : Bool) : SymbolIndex :=
  { registry, registersSources }

variable (ix : SymbolIndex)

def nextPlace : Nat := ix.retained.length

/-- Files a symbol that has a category, at the next place. -/
def fileSymbol (s : Symbol) (c : Category) : SymbolIndex :=
  let place := ix.nextPlace
  let ix := { ix with symbols := ix.symbols.add place c }
  if s.isGlobal then { ix with globals := ix.globals.add place c }
  else match s.longname with
    | none => ix
    | some longname =>
      let ix := { ix with byLongname := ix.byLongname.update longname {} (·.add place c) }
      let ix := match s.memberof with
        | some memberof =>
          { ix with byMemberof := ix.byMemberof.update memberof {} (·.add place c) }
        | none => ix
      if c.hasPage && !ix.outputLongnames.contains longname then
        { ix with outputLongnames := ix.outputLongnames ++ [longname] }
      else ix

/-- Files the symbol at the next place under the events that it listens to. -/
def fileListener (s : Symbol) : SymbolIndex :=
  { ix with
    listeners := (s.doclet.listens.getD []).foldl
      (fun d event => d.update event {} (·.add ix.nextPlace .listeners)) ix.listeners }

/-- Records the source file of a symbol. -/
def fileSource (s : Symbol) : SymbolIndex :=
  match s.sourcePath with
  | some path => { ix with shortPaths := ix.shortPaths.putNew path none }
  | none => ix

/-- The enclosing longname of the first symbol filed under a longname, where `s` is
the symbol at the next place. -/
def parentOf? (s : Symbol) (longname : String) : Option (Option String) :=
  ((ix.byLongname.get? longname).bind Bucket.first?).map fun place =>
    ((ix.retained ++ [s])[place]?).bind Symbol.memberof

/-- The chain of longnames that enclose a symbol, innermost first, as far as they
are filed and do not repeat. It has at most `fuel` members. -/
def chainFrom (parentOf? : String → Option (Option String)) (seen : List String) :
    Nat → Option String → List String
  | 0, _ => []
  | _, none => []
  | fuel + 1, some name =>
    if seen.contains name then []
    else match parentOf? name with
      | none => []
      | some next => name :: chainFrom parentOf? (name :: seen) fuel next

/-- The longnames that enclose the symbol at the next place, outermost first. -/
def ancestorsOf (s : Symbol) : List String :=
  (chainFrom (ix.parentOf? s) s.longname.toList (ix.byLongname.length + 1) s.memberof).reverse

/-- Retains a symbol whose category is filed. -/
def retain (s : Symbol) : SymbolIndex :=
  let ix := (ix.fileListener s).fileSource s
  let s := { s with
    see := (s.doclet.see.getD []).map (Symbol.seeEntry s.longname)
    ancestors := ix.ancestorsOf s }
  { ix with retained := ix.retained ++ [s] }

/-- Adds a doclet, and tells the place of its symbol unless the doclet is skipped. -/
def add (d : Doclet) : Option Nat × SymbolIndex :=
  let s := Symbol.ofDoclet d
  if d.isExportCandidate then
    (some ix.nextPlace,
      ({ ix with exportCandidates := ix.exportCandidates ++ [ix.nextPlace] }).retain s)
  else match d.category? with
    | none => (none, { ix with skipped := ix.skipped ++ [d] })
    | some c => (some ix.nextPlace, (ix.fileSymbol s c).retain s)

/-- Adds a doclet to an index that is not finished. -/
def addDoclet (d : Doclet) : Except IndexError (Option Nat × SymbolIndex) :=
  if ix.finalized then .error .addAfterEnd else .ok (ix.add d)

def ingest (doclets : List Doclet) : SymbolIndex := doclets.foldl (fun ix d => (ix.add d).2) ix

def symbolAt? (place : Nat) : Option Symbol := ix.retained[place]?

/-- The symbols filed under a longname. -/
def symbolsFor (longname : String) : Bucket := (ix.byLongname.get? longname).getD {}

def membersOf (longname : String) : Bucket := (ix.byMemberof.get? longname).getD {}

/-- Whether a longname has a page of its own. -/
def needsFile (longname : String) : Bool := ix.outputLongnames.contains longname

def packages : List Nat := ix.symbols.get .packages

def package? : Option Nat := ix.packages.head?

@[simp] theorem ingest_nil : ix.ingest [] = ix := rfl

@[simp] theorem ingest_cons (d : Doclet) (ds : List Doclet) :
    ix.ingest (d :: ds) = ((ix.add d).2).ingest ds := rfl

theorem ingest_append (ds es : List Doclet) : ix.ingest (ds ++ es) = (ix.ingest ds).ingest es := by
  simp [ingest]

end SymbolIndex

end DocSite

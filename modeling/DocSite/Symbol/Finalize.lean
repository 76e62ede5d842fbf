import DocSite.Symbol.Index

/-! Finishing an index. Modules get the symbols they export, events the longnames
of their listeners, source files their short paths; then the navigation tree is
built, and every retained symbol gets its address and an id that is unique on
its page. Last, source files get addresses if they are to be linked. Whether the
addresses can be encoded is asked when the index is complete. -/

namespace DocSite.SymbolIndex

/-- The candidates for export by longname, of which the first counts. -/
def candidatesByLongname (ix : SymbolIndex) : Dict String Nat :=
  ix.exportCandidates.foldl (fun d place =>
    d.putNew (((ix.symbolAt? place).bind Symbol.longname).getD "") place) []

/-- The name of an exported symbol: how a program gets hold of the module. -/
def requiredName (name : String) : String :=
  match Doclet.moduleLead.toList.isPrefixOf? name.toList with
  | some rest => "require(\"" ++ .ofList rest ++ "\")"
  | none => name ++ "\")"

/-- The places of the modules and of what each exports. -/
def moduleExports (ix : SymbolIndex) : List (Nat × Nat) :=
  let candidates := ix.candidatesByLongname
  (ix.symbols.get .modules).filterMap fun place =>
    (candidates.get? (((ix.symbolAt? place).bind Symbol.longname).getD "")).map (place, ·)

/-- Joins modules with their exports and renames these. -/
def resolveExports (ix : SymbolIndex) : SymbolIndex :=
  let pairs := ix.moduleExports
  let retained := ix.retained.mapIdx fun place s =>
    let s := { s with exported := (pairs.find? (·.1 == place)).map (·.2) }
    if pairs.any (·.2 == place) then { s with name := s.name.map requiredName } else s
  { ix with retained, exportCandidates := [] }

/-- Gives every source file its path without the shared directories. -/
def findShortPaths (ix : SymbolIndex) : SymbolIndex :=
  let lead := SourcePath.commonLead ix.shortPaths.keys
  { ix with
    shortPaths := ix.shortPaths.map fun (path, _) => (path, some (SourcePath.short lead path)) }

/-- Longnames with another one at the end, unless it is there. -/
def withName (names : List String) (name : String) : List String :=
  if names.contains name then names else names ++ [name]

/-- The longnames of the symbols that listen to an event. -/
def listenersTo (ix : SymbolIndex) (event : Symbol) : List String :=
  let places := ((ix.listeners.get? (event.longname.getD "")).getD {}).get .listeners
  (places.filterMap fun place => (ix.symbolAt? place).bind Symbol.longname).foldl withName []

/-- Gives every event the longnames of its listeners. -/
def addListeners (ix : SymbolIndex) : SymbolIndex :=
  { ix with
    retained := ix.retained.map fun s =>
      if s.category == some .events then { s with listeners := ix.listenersTo s } else s }

/-- What changes while the symbols are linked: the registry, and the longnames
whose reserved fragment has become an id. -/
structure Linking where
  registry : LinkRegistry
  claimed : List String := []
deriving Repr

/-- The id of a symbol on the page of its address. The first symbol of a longname
takes the fragment that is reserved for it; any other gets a new id. -/
def Linking.assignId (l : Linking) (s : Symbol) (longname url : String) :
    Option String × Linking :=
  let fragment := (splitFragment url).2
  let reserved := l.registry.fragmentFor longname
  let fresh (candidate : String) : Option String × Linking :=
    if candidate == "" then (none, l)
    else
      let (id, registry) := l.registry.issueId url candidate
      (some id, { l with registry })
  if fragment == "" then fresh (s.name.getD "")
  else match reserved with
    | some id =>
      if l.claimed.contains longname then
        fresh (if id == "" then Text.percentDecode fragment else id)
      else (some id, { l with claimed := longname :: l.claimed })
    | none => fresh (Text.percentDecode fragment)

/-- Gives a symbol its address and its id. -/
def Linking.link (l : Linking) (needsFile : List String) (s : Symbol) :
    Except LinkError (Symbol × Linking) :=
  match s.longname with
  | none => .ok (s, l)
  | some longname => do
    let (_, registry) ← l.registry.createLink s needsFile
    let l := { l with registry }
    match l.registry.urlFor longname with
    | none => throw (.noUrl longname)
    | some url =>
      let (id, l) := l.assignId s longname url
      return ({ s with id }, l)

/-- Gives the symbols of a list their addresses and ids in order. -/
def Linking.linkAll (l : Linking) (needsFile : List String) :
    List Symbol → Except LinkError (List Symbol × Linking)
  | [] => .ok ([], l)
  | s :: rest => do
    let (s, l) ← l.link needsFile s
    let (rest, l) ← l.linkAll needsFile rest
    return (s :: rest, l)

/-- Gives every retained symbol its short path, its address and its id. -/
def linkSymbols (ix : SymbolIndex) : Except LinkError SymbolIndex := do
  let placed := ix.retained.map fun s =>
    { s with shortPath := s.sourcePath.bind fun path => (ix.shortPaths.get? path).join }
  let (retained, l) ← ({ registry := ix.registry } : Linking).linkAll ix.outputLongnames placed
  return { ix with retained, registry := l.registry }

/-- The short paths that have a page, in order. -/
def sourcePages (ix : SymbolIndex) : List String :=
  ix.shortPaths.vals.filterMap fun short => short.filter (· != "")

def linkSources (ix : SymbolIndex) : SymbolIndex :=
  if ix.registersSources then
    { ix with
      registry := ix.sourcePages.foldl (fun r path => (r.register path none).2) ix.registry }
  else ix

/-- Finishes an index that takes no more doclets. -/
def finalize (ix : SymbolIndex) : Except IndexError SymbolIndex :=
  if ix.finalized then .error .finalizeTwice
  else
    let ix := ix.resolveExports.findShortPaths.addListeners
    let ix := { ix with navTree := NavTree.ofLongnames ix.outputLongnames }
    match ix.linkSymbols with
    | .error e => .error (.link e)
    | .ok ix => .ok { ix.linkSources with finalized := true }

/-- Finishes an index and encodes its addresses, which a lone surrogate makes impossible. -/
def finish (ix : SymbolIndex) : Except IndexError SymbolIndex := do
  let ix ← ix.finalize
  ix.registry.checkAddresses.mapError .address
  return ix

end DocSite.SymbolIndex

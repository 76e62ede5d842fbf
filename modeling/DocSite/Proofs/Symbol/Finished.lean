import DocSite.Proofs.Symbol.Finishing
import DocSite.Proofs.Symbol.Retaining

/-! What finishing makes of each symbol. An index that was filled doclet by doclet can be
finished, and then every symbol is the one that was retained, with its name as its module wants
it, its export, its listeners, its short path and an id. -/

namespace DocSite

/-- A doclet is listed under the category of one kind exactly if it is of that kind, unless that
is a kind which modules may export. -/
theorem Doclet.category?_eq_some_iff_kind {c : Category} {kind : String} (hClass : kind ≠ "class")
    (hFunction : kind ≠ "function") (hKind : ∀ k, Category.ofKind? k = some c ↔ k = kind)
    (d : Doclet) : d.category? = some c ↔ d.kind = kind := by
  rw [← hKind, category?_eq_some_iff, isIn, Bool.and_eq_true, beq_iff_eq, Bool.not_eq_true']
  refine and_iff_right_of_imp fun hOf => ?_
  simp [isExportCandidate, (hKind d.kind).1 hOf, hClass, hFunction]

theorem Category.ofKind?_eq_events_iff (kind : String) :
    ofKind? kind = some .events ↔ kind = "event" := by
  constructor
  · intro h
    unfold ofKind? at h
    split at h <;> simp_all
  · rintro rfl
    rfl

theorem Category.ofKind?_eq_modules_iff (kind : String) :
    ofKind? kind = some .modules ↔ kind = "module" := by
  constructor
  · intro h
    unfold ofKind? at h
    split at h <;> simp_all
  · rintro rfl
    rfl

namespace SymbolIndex

variable (ix : SymbolIndex)

/-- The longname of the symbol at a place. -/
def nameAt? (place : ℕ) : Option String := ix.doclets[place]?.bind Doclet.longname

theorem longname_symbolAt? (place : ℕ) :
    (ix.symbolAt? place).bind Symbol.longname = ix.nameAt? place := by
  rw [nameAt?, doclets, List.getElem?_map, Option.bind_map]
  rfl

/-- The symbol at a place as its index is finished, but for the id. -/
def finished (place : ℕ) (s : Symbol) : Symbol :=
  { s with
    name := if ix.moduleExports.any (·.2 == place) then s.name.map requiredName else s.name
    exported := (ix.moduleExports.find? (·.1 == place)).map (·.2)
    listeners := if s.category == some .events then ix.listenersTo s else s.listeners
    shortPath := s.sourcePath.bind fun path => (ix.findShortPaths.shortPaths.get? path).join }

/-- The listeners of an event are found by the doclets alone. -/
theorem listenersTo_eq (event : Symbol) : ix.listenersTo event =
    ((((ix.listeners.get? (event.longname.getD "")).getD {}).get .listeners).filterMap
      ix.nameAt?).foldl withName [] := by
  unfold listenersTo
  rw [funext ix.longname_symbolAt?]

theorem listenersTo_resolveExports (event : Symbol) :
    ix.resolveExports.findShortPaths.listenersTo event = ix.listenersTo event := by
  have hName : ix.resolveExports.findShortPaths.nameAt? = ix.nameAt? := by
    funext place
    rw [nameAt?, nameAt?, ← ix.doclets_resolveExports]
    rfl
  rw [listenersTo_eq, listenersTo_eq, hName]
  rfl

theorem symbolAt?_ready (place : ℕ) :
    (ix.ready.symbolAt? place).map (fun s => { s with
      shortPath := s.sourcePath.bind fun path => (ix.ready.shortPaths.get? path).join }) =
      (ix.symbolAt? place).map (ix.finished place) := by
  have hReady : ix.ready.symbolAt? place =
      (ix.resolveExports.symbolAt? place).map fun s =>
        if s.category == some .events then { s with listeners := ix.listenersTo s } else s := by
    simp only [← ix.listenersTo_resolveExports]
    rw [symbolAt?, symbolAt?, ← List.getElem?_map]
    rfl
  rw [hReady, symbolAt?, resolveExports, List.getElem?_mapIdx, symbolAt?, Option.map_map,
    Option.map_map]
  refine congrArg (Option.map · _) (funext fun s => ?_)
  dsimp only [Function.comp_apply]
  unfold finished
  cases ix.moduleExports.any (·.2 == place) <;>
    cases hEvent : s.category == some Category.events <;>
    simp only [hEvent, Bool.false_eq_true, ↓reduceIte] <;> rfl

variable {ix} {ix' : SymbolIndex}

/-- A symbol of a finished index is the retained one at its place, finished, with an id. -/
theorem unlinked_symbolAt?_of_finalize (h : ix.finalize = .ok ix') (place : ℕ) :
    (ix'.symbolAt? place).map unlinked =
      (ix.symbolAt? place).map fun s => unlinked (ix.finished place s) := by
  obtain ⟨symbols, registry, rfl, hSame⟩ := eq_of_finalize h
  have hAt := congrArg (·[place]?) hSame
  rw [List.getElem?_map, List.getElem?_map] at hAt
  refine hAt.trans ?_
  have hReady := congrArg (Option.map unlinked) (ix.symbolAt?_ready place)
  rw [Option.map_map, Option.map_map] at hReady
  exact hReady

theorem exists_of_symbolAt?_finalize (h : ix.finalize = .ok ix') {place : ℕ} {s' : Symbol}
    (hAt : ix'.symbolAt? place = some s') :
    ∃ s, ix.symbolAt? place = some s ∧ s' = { ix.finished place s with id := s'.id } := by
  have hSame := unlinked_symbolAt?_of_finalize h place
  rw [hAt, Option.map_some] at hSame
  obtain ⟨s, hBefore, hEq⟩ := Option.map_eq_some_iff.1 hSame.symm
  refine ⟨s, hBefore, ?_⟩
  have hFields := congrArg (fun t : Symbol => { t with id := s'.id }) hEq
  exact hFields.symm

/-- A symbol of a finished index is made of its doclet and finished, but for what it had or has
got otherwise: its see list, its ancestors and its id. -/
theorem exists_of_mem_finalize {r : LinkRegistry} {registersSources : Bool} {ds : List Doclet}
    (h : ((empty r registersSources).ingest ds).finalize = .ok ix) {s : Symbol}
    (hs : s ∈ ix.retained) : ∃ place,
      s = { ((empty r registersSources).ingest ds).finished place (.ofDoclet s.doclet) with
        see := s.see, ancestors := s.ancestors, id := s.id } := by
  obtain ⟨place, hPlace, rfl⟩ := List.getElem_of_mem hs
  obtain ⟨t, hAt, hEq⟩ := exists_of_symbolAt?_finalize h (List.getElem?_eq_getElem hPlace)
  have hNew := eq_ofDoclet_of_mem_ingest (List.mem_of_getElem? hAt)
  refine ⟨place, ?_⟩
  rw [hEq, hNew]
  rfl

end SymbolIndex

end DocSite

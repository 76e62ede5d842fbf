import DocSite.Proofs.Link.Permanence
import DocSite.Proofs.Symbol.Linking

/-! The links of source files beside those of symbols. Whether source files are to be linked
is asked for only at the end, when the symbols have their addresses and ids, so up to there
the two ways to finish an index take the same steps. What the registrations of source pages
add then are addresses under names that had none. -/

namespace DocSite

namespace LinkRegistry

/-- The registry in which every name of a list has a page. -/
def registerAll (r : LinkRegistry) (names : List String) : LinkRegistry :=
  names.foldl (fun r name => (r.register name none).2) r

variable (r : LinkRegistry) (names : List String)

theorem keeps_registerAll : r.Keeps (r.registerAll names) := by
  induction names generalizing r with
  | nil => exact .refl r
  | cons name names ih => exact (r.keeps_register name none).trans (ih _)

theorem ids_registerAll : (r.registerAll names).ids = r.ids := by
  induction names generalizing r with
  | nil => rfl
  | cons name names ih => exact (ih _).trans (r.ids_register name none)

theorem fragmentFor_registerAll (longname : String) :
    (r.registerAll names).fragmentFor longname = r.fragmentFor longname := by
  induction names generalizing r with
  | nil => rfl
  | cons name names ih => exact (ih _).trans (r.fragmentFor_register name longname none)

/-- The names with an address are those that had one and those of the list. -/
theorem isSome_urlFor_registerAll (name : String) :
    ((r.registerAll names).urlFor name).isSome ↔ (r.urlFor name).isSome ∨ name ∈ names := by
  induction names generalizing r with
  | nil => simp [registerAll]
  | cons first names ih =>
    have hFirst : ((r.register first none).2.urlFor name).isSome ↔
        (r.urlFor name).isSome ∨ name = first := by
      by_cases hName : name = first
      · rw [hName, urlFor_register_self]
        simp
      · rw [urlFor_register_of_ne r hName]
        simp [hName]
    rw [List.mem_cons, ← or_assoc, ← hFirst]
    exact ih _

end LinkRegistry

namespace SymbolIndex

/-- An index that is to link source files, or not to. -/
def withSources (registersSources : Bool) (ix : SymbolIndex) : SymbolIndex :=
  { ix with registersSources }

variable {ix off : SymbolIndex} (registersSources : Bool)

/-! ### Up to the last step -/

theorem fileSymbol_withSources (ix : SymbolIndex) (s : Symbol) (c : Category) :
    (ix.withSources registersSources).fileSymbol s c =
      (ix.fileSymbol s c).withSources registersSources := by
  unfold fileSymbol
  split_ifs
  · rfl
  · cases s.longname with
    | none => rfl
    | some longname => cases s.memberof <;> dsimp only [withSources] <;> split <;> rfl

theorem retain_withSources (ix : SymbolIndex) (s : Symbol) :
    (ix.withSources registersSources).retain s = (ix.retain s).withSources registersSources := by
  unfold SymbolIndex.retain fileSource
  cases s.sourcePath <;> rfl

theorem add_withSources (ix : SymbolIndex) (d : Doclet) :
    ((ix.withSources registersSources).add d).2 = (ix.add d).2.withSources registersSources := by
  unfold SymbolIndex.add
  dsimp only
  split
  · exact retain_withSources registersSources { ix with
      exportCandidates := ix.exportCandidates ++ [ix.nextPlace] } _
  · split
    · rfl
    · rw [fileSymbol_withSources, retain_withSources]

theorem ingest_withSources (ix : SymbolIndex) (doclets : List Doclet) :
    (ix.withSources registersSources).ingest doclets =
      (ix.ingest doclets).withSources registersSources := by
  induction doclets generalizing ix with
  | nil => rfl
  | cons d doclets ih => rw [ingest_cons, ingest_cons, add_withSources, ih]

theorem linkSymbols_withSources (ix : SymbolIndex) :
    (ix.withSources registersSources).linkSymbols =
      ix.linkSymbols.map (withSources registersSources) := by
  simp only [linkSymbols, bind, Except.bind]
  dsimp only [withSources]
  split <;> rfl

theorem registersSources_linkSymbols {linked : SymbolIndex} (h : ix.linkSymbols = .ok linked) :
    linked.registersSources = ix.registersSources := by
  simp only [linkSymbols, bind, Except.bind] at h
  split at h
  · contradiction
  · rw [← Except.ok.inj h]

/-! ### The last step -/

/-- An index finished without the links of source files, and these registered afterwards. -/
def linkedLater (off : SymbolIndex) : SymbolIndex :=
  { off with registersSources := true, registry := off.registry.registerAll off.sourcePages }

/-- To finish an index with the links of source files is to finish it without them and to
register them then. -/
theorem finalize_withSources (hOff : ix.registersSources = false) (h : ix.finalize = .ok off) :
    (ix.withSources true).finalize = .ok off.linkedLater := by
  rw [finalize_eq] at h ⊢
  split_ifs at h with hFinalized
  have hReady : (ix.withSources true).ready = ix.ready.withSources true := rfl
  rw [if_neg (by simpa [withSources] using hFinalized), hReady, linkSymbols_withSources]
  cases hLink : ix.ready.linkSymbols with
  | error e =>
    rw [hLink] at h
    contradiction
  | ok linked =>
    have hNone : linked.registersSources = false := (registersSources_linkSymbols hLink).trans hOff
    rw [hLink] at h
    obtain rfl := Except.ok.inj h
    simp [Except.map, linkSources, withSources, linkedLater, hNone, LinkRegistry.registerAll,
      sourcePages]

/-- A name that is to have a source page is a short path that is not empty. -/
theorem mem_sourcePages_iff (ix : SymbolIndex) (name : String) :
    name ∈ ix.sourcePages ↔ name ≠ "" ∧ some name ∈ ix.shortPaths.vals := by
  simp only [sourcePages, List.mem_filterMap, Option.filter_eq_some_iff]
  constructor
  · rintro ⟨_, hMem, rfl, hName⟩
    exact ⟨by simpa using hName, hMem⟩
  · rintro ⟨hName, hMem⟩
    exact ⟨some name, hMem, rfl, by simpa using hName⟩

/-- Two finished indexes of the same doclets that differ by the links of source files only:
the symbols, the tables, the ids given out and the fragments are the same, every address of
the one without them is one of the other, and the names which only the other has addresses
for are the short paths, unless they are empty, that had none. -/
structure AddsSources (off on : SymbolIndex) : Prop where
  index_eq : on = { off with registersSources := true, registry := on.registry }
  ids_eq : on.registry.ids = off.registry.ids
  fragmentFor_eq : ∀ name, on.registry.fragmentFor name = off.registry.fragmentFor name
  urlFor_of_some : ∀ {name url}, off.registry.urlFor name = some url →
    on.registry.urlFor name = some url
  urlFor_new_iff : ∀ name, off.registry.urlFor name = none →
    ((on.registry.urlFor name).isSome ↔ name ≠ "" ∧ some name ∈ off.shortPaths.vals)

theorem addsSources_linkedLater (off : SymbolIndex) : off.AddsSources off.linkedLater where
  index_eq := rfl
  ids_eq := LinkRegistry.ids_registerAll _ _
  fragmentFor_eq := LinkRegistry.fragmentFor_registerAll _ _
  urlFor_of_some hUrl := (off.registry.keeps_registerAll off.sourcePages).urlFor hUrl
  urlFor_new_iff name hNone := by
    rw [← mem_sourcePages_iff]
    simp [linkedLater, LinkRegistry.isSome_urlFor_registerAll, hNone]

/-- An index can be finished with and without the links of source files, over any registry,
and the two differ by these links only. -/
theorem exists_addsSources (r : LinkRegistry) (doclets : List Doclet) :
    ∃ off on, ((empty r false).ingest doclets).finalize = .ok off ∧
      ((empty r true).ingest doclets).finalize = .ok on ∧ off.AddsSources on := by
  obtain ⟨off, hOff⟩ := ((isOpen_empty r false).ingest doclets).exists_finalize
  have hNone : ((empty r false).ingest doclets).registersSources = false := by
    have hSame : (empty r false).withSources false = empty r false := rfl
    rw [← hSame, ingest_withSources]
    rfl
  have hOn : (empty r true).ingest doclets = ((empty r false).ingest doclets).withSources true := by
    rw [← ingest_withSources]
    rfl
  refine ⟨off, off.linkedLater, hOff, ?_, addsSources_linkedLater off⟩
  rw [hOn]
  exact finalize_withSources hNone hOff

end SymbolIndex

end DocSite

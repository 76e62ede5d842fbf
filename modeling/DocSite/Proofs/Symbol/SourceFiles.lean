import DocSite.Proofs.Symbol.Finishing
import DocSite.Proofs.Symbol.Retaining

/-! The source files of an index. Each file of a retained symbol is recorded once, where it is
named first, and has no short path until the index is finished; then every file has its
path without the directories that all of them share, and no later step changes that. -/

namespace DocSite

/-- The source files of some doclets, each where it comes first. -/
def Doclet.sourcePaths (doclets : List Doclet) : List String :=
  (doclets.filterMap Doclet.sourcePath).eraseDups

/-- The short paths of source files, in the order of the files, without empty ones. -/
def SourcePath.shortened (paths : List String) : List String :=
  (paths.map (short (commonLead paths))).filter (· != "")

namespace SymbolIndex

variable (ix : SymbolIndex)

/-- The source files of the retained symbols are recorded, and nothing is known of them. -/
def RecordsSources (ix : SymbolIndex) : Prop :=
  ix.shortPaths = (Doclet.sourcePaths ix.doclets).map (·, none)

theorem shortPaths_retain (s : Symbol) : (ix.retain s).shortPaths =
    match s.sourcePath with
    | some path => ix.shortPaths.putNew path none
    | none => ix.shortPaths := by
  unfold SymbolIndex.retain fileSource
  cases s.sourcePath <;> rfl

variable {ix} {ix' : SymbolIndex}

theorem RecordsSources.keys (h : ix.RecordsSources) :
    ix.shortPaths.keys = Doclet.sourcePaths ix.doclets := by
  rw [h, Dict.keys, List.map_map]
  exact List.map_id _

/-- A file that is named for the first time comes to the end. -/
theorem RecordsSources.retain (h : ix.RecordsSources) (d : Doclet) :
    (ix.retain (.ofDoclet d)).RecordsSources := by
  unfold RecordsSources at h ⊢
  rw [shortPaths_retain, doclets_retain, Symbol.doclet_ofDoclet]
  have hSource : (Symbol.ofDoclet d).sourcePath = d.sourcePath := rfl
  rw [hSource, Doclet.sourcePaths, List.filterMap_append]
  cases hPath : d.sourcePath with
  | none => simpa [hPath, Doclet.sourcePaths] using h
  | some path =>
    have hHas : ix.shortPaths.has path = true ↔ path ∈ ix.doclets.filterMap Doclet.sourcePath := by
      rw [Dict.has_iff_mem_keys, RecordsSources.keys h, Doclet.sourcePaths, List.mem_eraseDups]
    rw [List.filterMap_cons, hPath, List.filterMap_nil, eraseDups_concat]
    dsimp only
    rw [Dict.putNew]
    split_ifs with hOld hMem hMem
    · exact h
    · exact absurd (hHas.1 hOld) hMem
    · exact absurd (hHas.2 hMem) hOld
    · rw [h, List.map_append, Doclet.sourcePaths]
      rfl

theorem RecordsSources.congr (h : ix.RecordsSources) (hPaths : ix'.shortPaths = ix.shortPaths)
    (hDoclets : ix'.doclets = ix.doclets) : ix'.RecordsSources := by
  rw [RecordsSources, hPaths, hDoclets]
  exact h

theorem RecordsSources.add (h : ix.RecordsSources) (d : Doclet) : (ix.add d).2.RecordsSources := by
  cases hKept : d.isRetained with
  | true =>
    have hPaths : (ix.withFiled d).shortPaths = ix.shortPaths := by
      obtain ⟨_, _, _, _, _, _, hFiled⟩ := ix.withFiled_eq d
      rw [hFiled]
    rw [add_of_isRetained _ hKept]
    exact (h.congr hPaths (ix.doclets_withFiled d)).retain d
  | false =>
    rw [add_of_not_isRetained _ hKept]
    exact h.congr rfl rfl

theorem RecordsSources.ingest (h : ix.RecordsSources) (ds : List Doclet) :
    (ix.ingest ds).RecordsSources := by
  induction ds generalizing ix with
  | nil => exact h
  | cons d ds ih => exact ih (h.add d)

/-! ### Finishing -/

/-- The short paths are found before the symbols are linked. -/
theorem shortPaths_of_finalize (h : ix.finalize = .ok ix') :
    ix'.shortPaths = ix.findShortPaths.shortPaths := by
  obtain ⟨symbols, registry, rfl, -⟩ := eq_of_finalize h
  rfl

/-- The source files with a page are those of the retained doclets, in the order in which they
are first named, if something is left of their paths. -/
theorem sourcePages_of_finalize {r : LinkRegistry} {registersSources : Bool} {ds : List Doclet}
    (h : ((empty r registersSources).ingest ds).finalize = .ok ix) : ix.sourcePages =
      SourcePath.shortened (Doclet.sourcePaths (ds.filter Doclet.isRetained)) := by
  have hEmpty : (empty r registersSources).RecordsSources := rfl
  have hRecords := hEmpty.ingest ds
  have hDoclets := ((hasAdded_empty r registersSources).ingest ds).doclets
  rw [List.nil_append] at hDoclets
  rw [sourcePages, shortPaths_of_finalize h, findShortPaths, hRecords.keys, hRecords, hDoclets,
    SourcePath.shortened]
  generalize SourcePath.short _ = shorten
  generalize Doclet.sourcePaths _ = paths
  induction paths with
  | nil => rfl
  | cons path paths ih =>
    rw [Dict.vals] at ih ⊢
    by_cases hEmpty : shorten path = ""
    · simpa [Option.filter, hEmpty] using ih
    · simpa [Option.filter, hEmpty] using ih

end SymbolIndex

end DocSite

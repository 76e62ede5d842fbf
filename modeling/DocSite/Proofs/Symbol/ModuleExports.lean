import DocSite.Proofs.Symbol.Exports

/-! Modules and what they export, told exactly. All that modules may export is held back in the
order in which it comes. When the index is finished, each module is joined with the first
of these under its own longname, and whatever is joined with a module gets the name by which a
program requires it, once, even if several modules share it. No other name changes. -/

namespace DocSite

namespace Doclet

/-- The place of the first of some doclets that the doclet of a module exports. -/
def exportOf? (module : Doclet) (doclets : List Doclet) : Option ℕ :=
  doclets.findIdx? fun d => d.isExportCandidate && d.longname == module.longname

end Doclet

namespace SymbolIndex

/-- The lead of a module's longname becomes the call that requires it. What follows the lead
stays, whatever it begins with. -/
theorem requiredName_append (rest : String) :
    requiredName (Doclet.moduleLead ++ rest) = "require(\"" ++ rest ++ "\")" := by
  have hLead : Doclet.moduleLead.toList.isPrefixOf? (Doclet.moduleLead ++ rest).toList =
      some rest.toList := by
    rw [List.isPrefixOf?_eq_some_iff_append_eq, String.toList_append]
  rw [requiredName, hLead]
  dsimp only
  rw [String.ofList_toList]

variable {ix : SymbolIndex}

/-! ### Joining modules with their exports -/

/-- The first of some places that holds is found by its element. -/
theorem find?_findIdxs {α : Type} (p q : α → Bool) (xs : List α) :
    (xs.findIdxs p).find? (fun place => xs[place]?.any q) = xs.findIdx? fun x => p x && q x := by
  induction xs using List.reverseRecOn with
  | nil => rfl
  | append_singleton xs x ih =>
    have hOld : (xs.findIdxs p).find? (fun place => (xs ++ [x])[place]?.any q) =
        (xs.findIdxs p).find? fun place => xs[place]?.any q := by
      refine List.find?_congr fun place hPlace => ?_
      have hLt : place < xs.length := by simpa using List.lt_add_of_mem_findIdxs place hPlace
      rw [List.getElem?_append_left hLt]
    rw [List.findIdxs_append, List.find?_append, hOld, ih, List.findIdx?_append,
      List.findIdxs_singleton]
    cases hp : p x <;> simp [List.findIdx?_cons, hp]

/-- What a module exports is the first candidate under its longname. -/
theorem get?_candidatesByLongname_module (h : ix.HoldsCandidates) (module : Doclet) :
    ix.candidatesByLongname.get? (module.longname.getD "") = module.exportOf? ix.doclets := by
  rw [get?_candidatesByLongname, h, Doclet.exportOf?, ← find?_findIdxs]
  refine List.find?_congr fun place hPlace => ?_
  obtain ⟨d, hAt, hCandidate⟩ := mem_findIdxs_iff.1 hPlace
  obtain ⟨-, rest, hLongname, -⟩ := Doclet.exists_of_isExportCandidate hCandidate
  rw [nameAt?, hAt, Option.bind_some, Option.any_some, hLongname]
  cases module.longname with
  | none => simp [Doclet.moduleLead]
  | some longname => rfl

theorem exists_symbolAt? {place : ℕ} {d : Doclet} (h : ix.doclets[place]? = some d) :
    ∃ s, ix.symbolAt? place = some s ∧ s.doclet = d := by
  rw [doclets, List.getElem?_map] at h
  exact Option.map_eq_some_iff.1 h

/-- A module is joined with what its doclet exports, and nothing else with anything. -/
theorem find?_moduleExports (h : ix.HoldsCandidates)
    (hModules : ix.symbols.get .modules = ix.doclets.findIdxs (Doclet.isIn .modules))
    {place : ℕ} {d : Doclet} (hAt : ix.doclets[place]? = some d) :
    (ix.moduleExports.find? (·.1 == place)).map (·.2) =
      if d.kind = "module" then d.exportOf? ix.doclets else none := by
  have hMem : place ∈ ix.symbols.get .modules ↔ d.kind = "module" := by
    rw [hModules, mem_findIdxs_iff, ← Doclet.category?_eq_some_iff_kind (by decide) (by decide)
      Category.ofKind?_eq_modules_iff d, Doclet.category?_eq_some_iff]
    simp [hAt]
  have hFound : ix.candidatesByLongname.get?
      (((ix.symbolAt? place).bind Symbol.longname).getD "") = d.exportOf? ix.doclets := by
    rw [longname_symbolAt?, nameAt?, hAt, Option.bind_some, get?_candidatesByLongname_module h]
  rw [moduleExports, find?_filterMap_pair, hFound]
  simp only [hMem]

/-! ### Finished indexes -/

/-- How a finished index has joined the modules with what they export, and renamed this. -/
structure MergesExports (before ix : SymbolIndex) : Prop where
  /-- A module has the first candidate of its longname, and nothing else has an export. -/
  exported : ∀ place d, ix.doclets[place]? = some d → ix.exportAt? place =
    if d.kind = "module" then d.exportOf? ix.doclets else none
  /-- What a module exports bore the longname as its name, and now the call that requires it. -/
  renamed : ∀ module place, ix.exportAt? module = some place → ∃ rest s s',
    before.symbolAt? place = some s ∧ ix.symbolAt? place = some s' ∧
      s'.longname = some ("module:" ++ rest) ∧ s.name = some ("module:" ++ rest) ∧
      s'.name = some ("require(\"" ++ rest ++ "\")")
  /-- All else has the name that it was added with. -/
  kept : ∀ place, (∀ module, ix.exportAt? module ≠ some place) →
    (ix.symbolAt? place).map Symbol.name = (before.symbolAt? place).map Symbol.name

section Finalize
variable {before : SymbolIndex} (h : before.finalize = .ok ix)
include h

theorem map_name_of_finalize (place : ℕ) : (ix.symbolAt? place).map Symbol.name =
    (before.symbolAt? place).map fun s =>
      if before.moduleExports.any (·.2 == place) then s.name.map requiredName else s.name := by
  have hSame := congrArg (Option.map Symbol.name) (unlinked_symbolAt?_of_finalize h place)
  rw [Option.map_map, Option.map_map] at hSame
  exact hSame

/-- A module exports in the end what it has been joined with. -/
theorem exportAt?_eq_some_iff
    (hModules : before.symbols.get .modules = before.doclets.findIdxs (Doclet.isIn .modules))
    {module place : ℕ} :
    ix.exportAt? module = some place ↔ (module, place) ∈ before.moduleExports := by
  rw [exportAt?_of_finalize h, Option.bind_eq_some_iff, ← find?_moduleExports_eq_some_iff]
  constructor
  · rintro ⟨-, -, hJoined⟩
    exact hJoined
  · intro hJoined
    obtain ⟨p, hModule, hEq⟩ := List.mem_filterMap.1 (find?_moduleExports_eq_some_iff.1 hJoined)
    obtain ⟨e, -, hSame⟩ := Option.map_eq_some_iff.1 hEq
    obtain ⟨rfl, rfl⟩ := Prod.mk.inj hSame
    rw [hModules] at hModule
    obtain ⟨d, hDoclet, -⟩ := mem_findIdxs_iff.1 hModule
    obtain ⟨s, hAt, -⟩ := exists_symbolAt? hDoclet
    exact ⟨s, hAt, hJoined⟩

/-- The symbols that are renamed are those that some module exports in the end. -/
theorem any_moduleExports_iff
    (hModules : before.symbols.get .modules = before.doclets.findIdxs (Doclet.isIn .modules))
    {place : ℕ} : before.moduleExports.any (·.2 == place) = true ↔
      ∃ module, ix.exportAt? module = some place := by
  simp only [exportAt?_eq_some_iff h hModules, List.any_eq_true, beq_iff_eq, Prod.exists,
    exists_eq_right]

/-- An index whose symbols have the names of their doclets is finished with its exports merged. -/
theorem mergesExports_of_finalize (hHeld : before.HoldsCandidates)
    (hModules : before.symbols.get .modules = before.doclets.findIdxs (Doclet.isIn .modules))
    (hNames : ∀ s ∈ before.retained, s.name = (Symbol.ofDoclet s.doclet).name) :
    MergesExports before ix := by
  have hDoclets := (finishes_of_finalize h).doclets_eq
  constructor
  case exported =>
    intro place d hAt
    rw [hDoclets] at hAt ⊢
    obtain ⟨s, hSymbol, -⟩ := exists_symbolAt? hAt
    rw [exportAt?_of_finalize h, hSymbol, Option.bind_some,
      find?_moduleExports hHeld hModules hAt]
  case renamed =>
    intro module place hExport
    have hPair := (exportAt?_eq_some_iff h hModules).1 hExport
    have hCandidate := (mem_moduleExports hPair).1
    rw [hHeld] at hCandidate
    obtain ⟨d, hDoclet, hIs⟩ := mem_findIdxs_iff.1 hCandidate
    obtain ⟨s, hSymbol, rfl⟩ := exists_symbolAt? hDoclet
    obtain ⟨hKind, rest, hLongname, hName⟩ := Doclet.exists_of_isExportCandidate hIs
    have hBefore : s.name = some (Doclet.moduleLead ++ rest) := by
      rw [hNames s (List.mem_of_getElem? hSymbol), ← hName]
      simp [Symbol.ofDoclet, hKind]
    have hAny := (any_moduleExports_iff h hModules).2 ⟨module, hExport⟩
    obtain ⟨s', hSymbol', hDoclet'⟩ := exists_symbolAt? (hDoclets ▸ hDoclet)
    have hRenamed := map_name_of_finalize h place
    rw [hSymbol, hSymbol', Option.map_some, Option.map_some, hAny, if_pos rfl, hBefore,
      Option.map_some, requiredName_append] at hRenamed
    refine ⟨rest, s, s', hSymbol, hSymbol', ?_, hBefore, Option.some.inj hRenamed⟩
    rw [Symbol.longname, hDoclet', hLongname]
    rfl
  case kept =>
    intro place hNone
    have hNot : before.moduleExports.any (·.2 == place) = false := by
      rw [← Bool.not_eq_true, any_moduleExports_iff h hModules, not_exists]
      exact hNone
    rw [map_name_of_finalize h, hNot]
    rfl

end Finalize

/-- When any doclets have been indexed, the index can be finished, and then every module has as
its export the first candidate under its longname; a candidate that has been joined with a
module bears the call that requires the module as its name, and no other name has changed. -/
theorem exports_merged (r : LinkRegistry) (registersSources : Bool) (ds : List Doclet) :
    ∃ ix, ((empty r registersSources).ingest ds).finalize = .ok ix ∧
      ix.doclets = ds.filter Doclet.isRetained ∧
      MergesExports ((empty r registersSources).ingest ds) ix := by
  obtain ⟨ix, hFinalize⟩ := ((isOpen_empty r registersSources).ingest ds).exists_finalize
  have hEmpty : (empty r registersSources).HoldsCandidates := rfl
  refine ⟨ix, hFinalize, ?_, mergesExports_of_finalize hFinalize (hEmpty.ingest ds)
    (get_symbols_ingest r registersSources ds .modules) fun s hs => ?_⟩
  · rw [(finishes_of_finalize hFinalize).doclets_eq, doclets_ingest]
  · rw [eq_ofDoclet_of_mem_ingest hs]
    rfl

end SymbolIndex

end DocSite

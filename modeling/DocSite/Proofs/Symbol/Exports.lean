import DocSite.Proofs.Symbol.Finished
import Mathlib.Data.List.Find

/-! What modules export. A class or function that a module may export is held back until the
index is finished, and filed nowhere; then every module is joined with the first one that
is held back under its longname. So what a module exports bears its longname, and it is in
no table of its own. -/

namespace DocSite

/-- What a module may export bears the longname of a module as its name. -/
theorem Doclet.exists_of_isExportCandidate {d : Doclet} (h : d.isExportCandidate = true) :
    d.kind ≠ "external" ∧ ∃ rest, d.longname = some (moduleLead ++ rest) ∧
      d.name = some (moduleLead ++ rest) := by
  obtain ⟨hKind, hExport⟩ := Bool.and_eq_true_iff.1 h
  unfold isModuleExport at hExport
  cases hLongname : d.longname with
  | none => simp [hLongname] at hExport
  | some longname =>
    simp only [hLongname, Bool.and_eq_true, beq_iff_eq, List.isPrefixOf_iff_prefix] at hExport
    obtain ⟨hName, rest, hRest⟩ := hExport
    have hEq : longname = moduleLead ++ .ofList rest := by
      rw [← String.toList_inj, String.toList_append, String.toList_ofList, hRest]
    refine ⟨?_, .ofList rest, by rw [hEq], by rw [hName, hEq]⟩
    rintro hExternal
    simp [hExternal] at hKind

namespace SymbolIndex

variable (ix : SymbolIndex)

/-- The place of what the symbol at a place exports. -/
def exportAt? (place : ℕ) : Option ℕ := (ix.symbolAt? place).bind Symbol.exported

/-- What is held back for the modules are symbols that a module may export. -/
def HoldsBack (ix : SymbolIndex) : Prop :=
  ∀ place ∈ ix.exportCandidates, ∃ d, ix.doclets[place]? = some d ∧ d.isExportCandidate = true

/-- What is held back are the candidates for export, in their order. -/
def HoldsCandidates (ix : SymbolIndex) : Prop :=
  ix.exportCandidates = ix.doclets.findIdxs Doclet.isExportCandidate

/-! ### Adding a doclet -/

variable {ix} {ix' : SymbolIndex}

theorem HoldsCandidates.holdsBack (h : ix.HoldsCandidates) : ix.HoldsBack := by
  intro place hPlace
  rw [h] at hPlace
  exact mem_findIdxs_iff.1 hPlace

theorem exportCandidates_retain (ix : SymbolIndex) (s : Symbol) :
    (ix.retain s).exportCandidates = ix.exportCandidates := by
  obtain ⟨s', shortPaths, -, hRetain⟩ := ix.retain_eq s
  rw [hRetain]

theorem exportCandidates_withFiled (ix : SymbolIndex) (d : Doclet) :
    (ix.withFiled d).exportCandidates =
      ix.exportCandidates ++ if d.isExportCandidate then [ix.nextPlace] else [] := by
  unfold withFiled
  split_ifs
  · rfl
  · rw [List.append_nil]
    split
    · rfl
    · rw [fileSymbol_eq]

theorem HoldsCandidates.add (h : ix.HoldsCandidates) (d : Doclet) :
    (ix.add d).2.HoldsCandidates := by
  unfold HoldsCandidates at h ⊢
  cases hKept : d.isRetained with
  | true =>
    rw [doclets_add ix hKept, add_of_isRetained _ hKept, exportCandidates_retain,
      exportCandidates_withFiled, List.findIdxs_append, List.findIdxs_singleton, ← h,
      length_doclets, Nat.zero_add]
  | false =>
    rw [add_of_not_isRetained _ hKept]
    exact h

theorem HoldsCandidates.ingest (h : ix.HoldsCandidates) (ds : List Doclet) :
    (ix.ingest ds).HoldsCandidates := by
  induction ds generalizing ix with
  | nil => exact h
  | cons d ds ih => exact ih (h.add d)

/-! ### Joining modules with their exports -/

/-- Of the places entered under a name the first is found. -/
theorem get?_foldl_putNew (name : ℕ → String) (places : List ℕ) (found : Dict String ℕ)
    (key : String) :
    (places.foldl (fun found place => found.putNew (name place) place) found).get? key =
      (found.get? key).or (places.find? fun place => name place == key) := by
  induction places generalizing found with
  | nil => simp
  | cons place places ih =>
    rw [List.foldl_cons, ih, Dict.get?_putNew, List.find?_cons]
    cases found.get? key <;> cases hName : name place == key <;> simp_all

/-- The candidate found by a longname is the first of those held back that bears it. -/
theorem get?_candidatesByLongname (ix : SymbolIndex) (key : String) :
    ix.candidatesByLongname.get? key =
      ix.exportCandidates.find? fun place => (ix.nameAt? place).getD "" == key := by
  unfold candidatesByLongname
  rw [get?_foldl_putNew, Dict.get?_nil, Option.none_or]
  simp only [longname_symbolAt?]

/-- A module and what it exports have the same longname. -/
theorem mem_moduleExports {place e : ℕ} (h : (place, e) ∈ ix.moduleExports) :
    e ∈ ix.exportCandidates ∧ (ix.nameAt? e).getD "" = (ix.nameAt? place).getD "" := by
  obtain ⟨module, -, hModule⟩ := List.mem_filterMap.1 h
  obtain ⟨candidate, hCandidate, hEq⟩ := Option.map_eq_some_iff.1 hModule
  obtain ⟨rfl, rfl⟩ := Prod.mk.inj hEq
  rw [longname_symbolAt?, get?_candidatesByLongname] at hCandidate
  have hName := List.find?_some hCandidate
  exact ⟨List.mem_of_find?_eq_some hCandidate, eq_of_beq hName⟩

/-- A list of pairs made for some places has for each place what was made for it. -/
theorem find?_filterMap_pair (found? : ℕ → Option ℕ) (places : List ℕ) (place : ℕ) :
    ((places.filterMap fun p => (found? p).map (p, ·)).find? (·.1 == place)).map (·.2) =
      if place ∈ places then found? place else none := by
  induction places with
  | nil => rfl
  | cons p places ih =>
    rw [List.filterMap_cons]
    by_cases hp : p = place
    · subst hp
      cases hFound : found? p with
      | none =>
        rw [hFound] at ih
        simpa using ih
      | some e => simp
    · have hMem : place ∈ p :: places ↔ place ∈ places := by simp [Ne.symm hp]
      simp only [hMem, ← ih]
      cases hFound : found? p with
      | none => rfl
      | some e => rw [Option.map_some, List.find?_cons_of_neg (by simpa using hp)]

theorem find?_moduleExports_eq_some_iff {module place : ℕ} :
    (ix.moduleExports.find? (·.1 == module)).map (·.2) = some place ↔
      (module, place) ∈ ix.moduleExports := by
  rw [moduleExports, find?_filterMap_pair, List.mem_filterMap,
    Option.ite_none_right_eq_some]
  constructor
  · rintro ⟨hModule, hFound⟩
    exact ⟨module, hModule, by rw [hFound, Option.map_some]⟩
  · rintro ⟨p, hModule, hPair⟩
    obtain ⟨e, hFound, hEq⟩ := Option.map_eq_some_iff.1 hPair
    obtain ⟨rfl, rfl⟩ := Prod.mk.inj hEq
    exact ⟨hModule, hFound⟩

/-- A symbol is joined with an export when its index is finished, and then never again. -/
theorem exportAt?_of_finalize (h : ix.finalize = .ok ix') (place : ℕ) :
    ix'.exportAt? place = (ix.symbolAt? place).bind fun _ =>
      (ix.moduleExports.find? (·.1 == place)).map (·.2) := by
  have hSame := congrArg (Option.bind · Symbol.exported) (unlinked_symbolAt?_of_finalize h place)
  rw [Option.bind_map, Option.bind_map] at hSame
  exact hSame

/-- What a symbol of a finished index exports bears its longname and is listed nowhere. -/
theorem export_of_finalize {r : LinkRegistry} {registersSources : Bool} {ds : List Doclet}
    (h : ((empty r registersSources).ingest ds).finalize = .ok ix) {place e : ℕ}
    (hExport : ix.exportAt? place = some e) :
    (∃ d, ix.doclets[e]? = some d ∧ d.isExportCandidate = true) ∧
      (ix.nameAt? e).getD "" = (ix.nameAt? place).getD "" := by
  have hEmpty : (empty r registersSources).HoldsCandidates := rfl
  rw [exportAt?_of_finalize h] at hExport
  obtain ⟨-, -, hJoined⟩ := Option.bind_eq_some_iff.1 hExport
  obtain ⟨hHeld, hName⟩ := mem_moduleExports (find?_moduleExports_eq_some_iff.1 hJoined)
  have hDoclets := (finishes_of_finalize h).doclets_eq
  rw [nameAt?, nameAt?, hDoclets]
  exact ⟨(hEmpty.ingest ds).holdsBack e hHeld, hName⟩

end SymbolIndex

end DocSite

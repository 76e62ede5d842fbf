import DocSite.Proofs.Symbol.Linking

/-! Ids on the pages of a finished index. While the symbols are linked, every id that is
set stands at a place that has been given out, no two stand at one place, and a place
that is reserved for a longname is free until a symbol of that longname claims it.
Hence no two symbols of a page have ids that differ by case only. -/

namespace DocSite.SymbolIndex

/-- The place of the id of a symbol, on the page of the address of its longname. -/
def placeIn (r : LinkRegistry) (s : Symbol) : Option (String × String) :=
  s.longname.bind fun longname => (r.urlFor longname).bind fun url => s.id.map (placeOf url)

theorem placeIn_of_id_eq_none (r : LinkRegistry) {s : Symbol} (h : s.id = none) :
    placeIn r s = none := by
  cases hLongname : s.longname with
  | none => simp [placeIn, hLongname]
  | some longname => cases r.urlFor longname <;> simp [placeIn, hLongname, h]

/-- Whether the longname of a symbol has an address. -/
def IsLinked (r : LinkRegistry) (s : Symbol) : Prop :=
  ∀ longname, s.longname = some longname → (r.urlFor longname).isSome

theorem isLinked_of_urlFor {r : LinkRegistry} {s : Symbol} {longname url : String}
    (hLongname : s.longname = some longname) (hUrl : r.urlFor longname = some url) :
    IsLinked r s := by
  intro other hOther
  obtain rfl := Option.some.inj (hLongname.symm.trans hOther)
  rw [hUrl, Option.isSome_some]

section Grows
variable {r r' : LinkRegistry} (hGrows : r.Grows r') {s : Symbol} (hLinked : IsLinked r s)
include hGrows hLinked

theorem IsLinked.of_grows : IsLinked r' s := by
  intro longname hLongname
  obtain ⟨url, hUrl⟩ := Option.isSome_iff_exists.1 (hLinked longname hLongname)
  rw [hGrows.urlFor_of_some hUrl, Option.isSome_some]

/-- The id of a symbol that has an address keeps its place. -/
theorem placeIn_of_grows : placeIn r' s = placeIn r s := by
  cases hLongname : s.longname with
  | none => simp only [placeIn, hLongname, Option.bind_none]
  | some longname =>
    obtain ⟨url, hUrl⟩ := Option.isSome_iff_exists.1 (hLinked longname hLongname)
    simp only [placeIn, hLongname, hUrl, hGrows.urlFor_of_some hUrl, Option.bind_some]

end Grows

namespace Linking

variable {l l' : Linking} {done : List Symbol}

/-- What holds of a linking and the symbols that it has linked. -/
structure IsSound (l : Linking) (done : List Symbol) : Prop where
  registry : l.registry.IsSound
  linked : ∀ s ∈ done, IsLinked l.registry s
  issued : ∀ s ∈ done, ∀ place, placeIn l.registry s = some place → l.registry.HasIssued place
  apart : done.Pairwise fun a b =>
    ∀ place, placeIn l.registry a = some place → placeIn l.registry b ≠ some place
  unclaimed : ∀ s ∈ done, ∀ place, placeIn l.registry s = some place →
    ∀ longname, longname ∉ l.claimed → ¬ l.registry.IsReserved longname place
  not_isBlank : ∀ s ∈ done, ∀ id, s.id = some id → ∀ c ∈ id.toList, Text.isBlank c = false

theorem IsSound.nil (h : l.registry.IsSound) : l.IsSound [] where
  registry := h
  linked := by simp
  issued := by simp
  apart := .nil
  unclaimed := by simp
  not_isBlank := by simp

/-- A registry may grow while the linked symbols stay as they are. -/
theorem IsSound.of_grows (h : l.IsSound done) (hSound : l'.registry.IsSound)
    (hGrows : l.registry.Grows l'.registry) (hClaimed : l.claimed ⊆ l'.claimed) :
    l'.IsSound done := by
  have hPlace : ∀ s ∈ done, placeIn l'.registry s = placeIn l.registry s :=
    fun s hs => placeIn_of_grows hGrows (h.linked s hs)
  constructor
  case registry => exact hSound
  case linked => exact fun s hs => (h.linked s hs).of_grows hGrows
  case issued =>
    intro s hs place hEq
    rw [hPlace s hs] at hEq
    exact hGrows.issued (h.issued s hs place hEq)
  case apart =>
    refine h.apart.imp_of_mem ?_
    intro a b ha hb hApart
    rwa [hPlace a ha, hPlace b hb]
  case unclaimed =>
    intro s hs place hEq longname hLongname hReserved
    rw [hPlace s hs] at hEq
    -- a place that has become reserved was free, but the symbol stood there
    rcases hGrows.reserved hReserved with hOld | hFree
    · exact h.unclaimed s hs place hEq longname (fun h => hLongname (hClaimed h)) hOld
    · exact hFree (h.issued s hs place hEq)
  case not_isBlank => exact h.not_isBlank

/-- One symbol more is linked, at a place of its own. -/
theorem IsSound.append (h : l.IsSound done) {s : Symbol} (hLinked : IsLinked l.registry s)
    (hPlace : ∀ place, placeIn l.registry s = some place → l.registry.HasIssued place ∧
      (∀ t ∈ done, placeIn l.registry t ≠ some place) ∧
      ∀ longname, longname ∉ l.claimed → ¬ l.registry.IsReserved longname place)
    (hBlank : ∀ id, s.id = some id → ∀ c ∈ id.toList, Text.isBlank c = false) :
    l.IsSound (done ++ [s]) := by
  constructor
  case registry => exact h.registry
  case linked => exact List.forall_mem_append.2 ⟨h.linked, List.forall_mem_singleton.2 hLinked⟩
  case issued =>
    rintro t ht place hEq
    rcases List.mem_append.1 ht with ht | ht
    · exact h.issued t ht place hEq
    · obtain rfl := List.mem_singleton.1 ht
      exact (hPlace place hEq).1
  case apart =>
    refine List.pairwise_append.2 ⟨h.apart, List.pairwise_singleton _ _, ?_⟩
    intro t ht u hu place hEq hOther
    obtain rfl := List.mem_singleton.1 hu
    exact (hPlace place hOther).2.1 t ht hEq
  case unclaimed =>
    intro t ht place hEq
    rcases List.mem_append.1 ht with ht | ht
    · exact h.unclaimed t ht place hEq
    · obtain rfl := List.mem_singleton.1 ht
      exact (hPlace place hEq).2.2
  case not_isBlank =>
    exact List.forall_mem_append.2 ⟨h.not_isBlank, List.forall_mem_singleton.2 hBlank⟩

theorem IsSound.append_of_id_eq_none (h : l.IsSound done) {s : Symbol}
    (hLinked : IsLinked l.registry s) (hId : s.id = none) : l.IsSound (done ++ [s]) := by
  refine h.append hLinked ?_ ?_
  · simp [placeIn_of_id_eq_none _ hId]
  · simp [hId]

/-- A symbol that gets a new id stands where nobody stood. -/
theorem IsSound.append_issueId (h : l.IsSound done) {s : Symbol} {longname url : String}
    (hLongname : s.longname = some longname) (hUrl : l.registry.urlFor longname = some url)
    (candidate : String) :
    ({ l with registry := (l.registry.issueId url candidate).2 } : Linking).IsSound
      (done ++ [{ s with id := some (l.registry.issueId url candidate).1 }]) := by
  have hGrows := h.registry.grows_issueId url candidate
  have hFree := l.registry.not_hasIssued_placeOf_issueId url candidate
  have hDone : ({ l with registry := (l.registry.issueId url candidate).2 } : Linking).IsSound
      done := h.of_grows (h.registry.issueId url candidate) hGrows (fun _ => id)
  refine hDone.append ?_ ?_ ?_
  · exact isLinked_of_urlFor hLongname hUrl
  · intro place hEq
    have hPlace : placeOf url (l.registry.issueId url candidate).1 = place := by
      simpa [placeIn, Symbol.longname, show s.doclet.longname = some longname from hLongname,
        LinkRegistry.urlFor_issueId, hUrl] using hEq
    subst hPlace
    refine ⟨l.registry.hasIssued_placeOf_issueId url candidate, ?_, ?_⟩
    · intro t ht hOther
      rw [placeIn_of_grows hGrows (h.linked t ht)] at hOther
      exact hFree (h.issued t ht _ hOther)
    · intro other _ hReserved
      exact hFree (h.registry.issued (h.registry.isReserved_of_keep id (fun _ => rfl) hReserved))
  · intro id hId
    obtain rfl := Option.some.inj hId
    exact l.registry.not_isBlank_of_mem_issueId url candidate

/-- A symbol that claims the fragment reserved for its longname stands where nobody stood. -/
theorem IsSound.append_claim (h : l.IsSound done) {s : Symbol} {longname url fragment : String}
    (hLongname : s.longname = some longname) (hUrl : l.registry.urlFor longname = some url)
    (hFragment : l.registry.fragmentFor longname = some fragment)
    (hClaimed : longname ∉ l.claimed) :
    ({ l with claimed := longname :: l.claimed } : Linking).IsSound
      (done ++ [{ s with id := some fragment }]) := by
  have hReserved : l.registry.IsReserved longname (placeOf url fragment) :=
    ⟨url, fragment, hUrl, hFragment, rfl⟩
  have hDone : ({ l with claimed := longname :: l.claimed } : Linking).IsSound done :=
    h.of_grows h.registry (.refl _) (List.subset_cons_self _ _)
  refine hDone.append ?_ ?_ ?_
  · exact isLinked_of_urlFor hLongname hUrl
  · intro place hEq
    have hPlace : placeOf url fragment = place := by
      simpa [placeIn, Symbol.longname, show s.doclet.longname = some longname from hLongname,
        hUrl] using hEq
    subst hPlace
    refine ⟨h.registry.issued hReserved, ?_, ?_⟩
    · exact fun t ht hOther => h.unclaimed t ht _ hOther longname hClaimed hReserved
    · intro other hOther hReserved'
      exact hOther (h.registry.apart hReserved hReserved' ▸ List.mem_cons_self)
  · intro id hId
    obtain rfl := Option.some.inj hId
    exact h.registry.not_isBlank hFragment

/-- The link of one symbol is sound. -/
theorem IsSound.link (h : l.IsSound done) (needsFile : List String) {s : Symbol}
    (hId : s.id = none) :
    ∃ s' l', l.link needsFile s = .ok (s', l') ∧ l'.IsSound (done ++ [s']) := by
  cases hLongname : s.longname with
  | none =>
    refine ⟨s, l, l.link_of_none needsFile hLongname, h.append_of_id_eq_none ?_ hId⟩
    simp [IsLinked, hLongname]
  | some longname =>
    obtain ⟨url, r, hCreate, hUrl, hLink⟩ := l.link_of_some needsFile hLongname
    have hSound := h.registry.createLinkFor s longname (needsFile.contains longname)
    have hGrows := h.registry.grows_createLinkFor s longname (needsFile.contains longname)
    rw [hCreate] at hSound hGrows
    have h₁ : ({ l with registry := r } : Linking).IsSound done :=
      h.of_grows hSound hGrows (fun _ => id)
    rcases assignId_cases { l with registry := r } s longname url with
      ⟨fragment, hFragment, hClaimed, -, hEq⟩ | ⟨-, hEq | ⟨candidate, hEq⟩⟩
    · exact ⟨_, _, hLink hEq, h₁.append_claim hLongname hUrl hFragment hClaimed⟩
    · exact ⟨_, _, hLink hEq, h₁.append_of_id_eq_none (isLinked_of_urlFor hLongname hUrl) rfl⟩
    · exact ⟨_, _, hLink hEq, h₁.append_issueId hLongname hUrl candidate⟩

/-- A page that is registered afterwards changes no place. -/
theorem IsSound.register (h : l.IsSound done) (path : String) :
    ({ l with registry := (l.registry.register path none).2 } : Linking).IsSound done :=
  h.of_grows (h.registry.register path none) (h.registry.grows_register path none) (fun _ => id)

end Linking

/-- The page of the address of a symbol. -/
def pageOf? (ix : SymbolIndex) (s : Symbol) : Option String :=
  s.longname.bind ix.registry.pageOf?

theorem placeIn_of_pageOf? (ix : SymbolIndex) {s : Symbol} {page id : String}
    (hPage : ix.pageOf? s = some page) (hId : s.id = some id) :
    placeIn ix.registry s = some (page, Text.lower id) := by
  obtain ⟨longname, hLongname, hUrl⟩ := Option.bind_eq_some_iff.1 hPage
  obtain ⟨url, hRegistered, rfl⟩ := Option.map_eq_some_iff.1 hUrl
  simp [placeIn, hLongname, hRegistered, hId, placeOf]

/-- An index can always be finished, and then every symbol that has a longname is on a page,
the ids of the symbols of one page differ even where case is ignored, and no id has blanks. -/
theorem ids_distinct_on_page (tutorials : List String) (doclets : List Doclet)
    (registersSources : Bool) :
    ∃ ix, ((empty (.withTutorials tutorials) registersSources).ingest doclets).finalize = .ok ix ∧
      (∀ s ∈ ix.retained, s.longname.isSome → (ix.pageOf? s).isSome) ∧
      (ix.retained.Pairwise fun a b => ∀ page idA idB,
        ix.pageOf? a = some page → ix.pageOf? b = some page →
        a.id = some idA → b.id = some idB → Text.lower idA ≠ Text.lower idB) ∧
      ∀ s ∈ ix.retained, ∀ id, s.id = some id → ∀ c ∈ id.toList, Text.isBlank c = false := by
  have hOpen := (isOpen_empty (.withTutorials tutorials) registersSources).ingest doclets
  obtain ⟨ix, l, hFinalize, hFinal, -, hRegistry⟩ :=
    hOpen.finalize_induct (P := Linking.IsSound)
      (.nil (by rw [registry_ingest]; exact LinkRegistry.isSound_withTutorials tutorials))
      (fun s hId l done h => h.link _ hId) (fun l done path h => h.register path)
  obtain ⟨-, hLinked, -, hApart, -, hBlank⟩ := hFinal
  rw [← hRegistry] at hLinked hApart
  refine ⟨ix, hFinalize, ?_, ?_, hBlank⟩
  · intro s hs hLongname
    obtain ⟨longname, hLongname⟩ := Option.isSome_iff_exists.1 hLongname
    obtain ⟨url, hUrl⟩ := Option.isSome_iff_exists.1 (hLinked s hs longname hLongname)
    simp [pageOf?, LinkRegistry.pageOf?, hLongname, hUrl]
  · refine hApart.imp ?_
    intro a b hApart page idA idB hPageA hPageB hIdA hIdB hLower
    refine hApart _ (ix.placeIn_of_pageOf? hPageA hIdA) ?_
    rw [ix.placeIn_of_pageOf? hPageB hIdB, hLower]

end DocSite.SymbolIndex

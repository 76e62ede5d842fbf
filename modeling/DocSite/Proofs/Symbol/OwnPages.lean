import DocSite.Proofs.Link.IssuedPages
import DocSite.Proofs.Link.PagesApart
import DocSite.Proofs.Symbol.Finishing

/-! Whose pages the longnames of a finished index are on. Every longname of a symbol has an
address, on a page that was issued for some name; a longname that is recorded as having a
page has that page for itself, and there is a symbol to show on it. -/

namespace DocSite

namespace SymbolIndex

namespace Linking

variable {l l' : Linking} {needsFile : List String} {done : List Symbol}

/-- What holds of a linking and the symbols that it has linked: these have addresses, and pages
tell whose they are. -/
structure HasPages (needsFile : List String) (l : Linking) (done : List Symbol) : Prop where
  pagesIssued : l.registry.PagesIssued (LinkRegistry.Owns needsFile)
  global_isSome : (l.registry.urlFor globalName).isSome
  linked : ∀ s ∈ done, ∀ longname, s.longname = some longname →
    (l.registry.urlFor longname).isSome

theorem HasPages.withTutorials (needsFile tutorials : List String) :
    HasPages needsFile { registry := .withTutorials tutorials } [] where
  pagesIssued := LinkRegistry.pagesIssued_withTutorials _ tutorials
  global_isSome := by
    rw [LinkRegistry.urlFor, (LinkRegistry.urls_fragments_withTutorials tutorials).1]
    decide
  linked _ hs := absurd hs List.not_mem_nil

/-- One symbol more is linked, and what had an address keeps one. -/
theorem HasPages.append (h : HasPages needsFile l done) {s : Symbol}
    (hPages : l'.registry.PagesIssued (LinkRegistry.Owns needsFile))
    (hKeep : ∀ name, (l.registry.urlFor name).isSome → (l'.registry.urlFor name).isSome)
    (hSelf : ∀ longname, s.longname = some longname → (l'.registry.urlFor longname).isSome) :
    HasPages needsFile l' (done ++ [s]) where
  pagesIssued := hPages
  global_isSome := hKeep globalName h.global_isSome
  linked t ht longname hLongname := by
    rcases List.mem_append.1 ht with ht | ht
    · exact hKeep longname (h.linked t ht longname hLongname)
    · rw [List.mem_singleton.1 ht] at hLongname
      exact hSelf longname hLongname

theorem HasPages.link (h : HasPages needsFile l done) (s : Symbol) :
    ∃ s' l', l.link needsFile s = .ok (s', l') ∧ HasPages needsFile l' (done ++ [s']) := by
  cases hLongname : s.longname with
  | none =>
    exact ⟨s, l, l.link_of_none needsFile hLongname,
      h.append h.pagesIssued (fun _ => id) (by simp [hLongname])⟩
  | some longname =>
    obtain ⟨id, l', hLink, hUrls, hFiles⟩ := l.link_pages needsFile hLongname
    refine ⟨{ s with id }, l', hLink, ?_⟩
    have hSelf : (l'.registry.urlFor longname).isSome := by
      rw [hUrls, LinkRegistry.urlFor_createLinkFor, Option.isSome_some]
    have hOnly : ∀ name, ({ s with id } : Symbol).longname = some name →
        (l'.registry.urlFor name).isSome := by
      intro name hName
      obtain rfl := Option.some.inj (hLongname.symm.trans hName)
      exact hSelf
    cases hOld : l.registry.urlFor longname with
    | some old =>
      rw [LinkRegistry.createLinkFor_of_urlFor _ hOld] at hUrls hFiles
      have hPages := h.pagesIssued.alias hFiles (fun name _ hSome => (hUrls name).trans hSome)
        fun name _ hSome => .inl ((hUrls name).symm.trans hSome)
      refine h.append hPages (fun name hSome => ?_) hOnly
      rwa [hUrls]
    | none =>
      obtain ⟨page, fragment, hLinks, -, -⟩ := l.registry.createLinkFor_of_none s
        (needsFile.contains longname) hOld
      have hOwns : LinkRegistry.Owns needsFile longname →
          (Placement.ofSymbol s longname (needsFile.contains longname)).owner = longname := by
        rintro (hNeeds | rfl)
        · simp [Placement.ofSymbol, Placement.hasPage, hNeeds]
        · have hGlobal := h.global_isSome
          rw [hOld] at hGlobal
          contradiction
      have hPages := (h.pagesIssued.links hLinks hOld hOwns).alias hFiles
        (fun name _ hSome => (hUrls name).trans hSome)
        fun name _ hSome => .inl ((hUrls name).symm.trans hSome)
      refine h.append hPages (fun name hSome => ?_) hOnly
      obtain ⟨url, hUrl⟩ := Option.isSome_iff_exists.1 hSome
      rw [hUrls, hLinks.urlFor_of_some hOld hUrl, Option.isSome_some]

theorem HasPages.register (h : HasPages needsFile l done) (path : String) :
    HasPages needsFile { l with registry := (l.registry.register path none).2 } done := by
  have hKeep : ∀ name, (l.registry.urlFor name).isSome →
      ((l.registry.register path none).2.urlFor name).isSome := by
    intro name hSome
    obtain ⟨url, hUrl⟩ := Option.isSome_iff_exists.1 hSome
    rw [LinkRegistry.urlFor_register_of_some _ hUrl, Option.isSome_some]
  exact ⟨h.pagesIssued.register path, hKeep _ h.global_isSome,
    fun s hs longname hLongname => hKeep _ (h.linked s hs longname hLongname)⟩

end Linking

/-- In a finished index every longname of a symbol has an address, and pages tell whose they
are. -/
theorem hasPages_finalize {tutorials : List String} {doclets : List Doclet}
    {registersSources : Bool} {ix : SymbolIndex}
    (h : ((empty (.withTutorials tutorials) registersSources).ingest doclets).finalize = .ok ix) :
    ix.registry.PagesIssued (LinkRegistry.Owns ix.outputLongnames) ∧
      ∀ s ∈ ix.retained, ∀ longname, s.longname = some longname →
        (ix.registry.urlFor longname).isSome := by
  have hOpen := (isOpen_empty (.withTutorials tutorials) registersSources).ingest doclets
  obtain ⟨ix', l, hFinalize, hFinal, hNeedsFile, hRegistry⟩ :=
    hOpen.finalize_induct (P := Linking.HasPages _)
      (by rw [registry_ingest]; exact .withTutorials _ tutorials)
      (fun s _ l done hPages => hPages.link s) (fun l done path hPages => hPages.register path)
  obtain rfl := Except.ok.inj (h.symm.trans hFinalize)
  rw [hRegistry, hNeedsFile]
  exact ⟨hFinal.pagesIssued, hFinal.linked⟩

/-- A doclet that asks for the page of its longname is filed under that. -/
theorem exists_of_ownPage? {d : Doclet} {longname : String} (h : d.ownPage? = some longname) :
    ∃ c : Category, c.hasPage = true ∧ d.isIn c = true ∧ d.isNamed longname = true := by
  unfold Doclet.ownPage? at h
  cases hCategory : d.category? with
  | none => simp [hCategory] at h
  | some c =>
    cases hPage : c.hasPage with
    | false => simp [hCategory, hPage] at h
    | true =>
      have hLongname : d.longname = some longname := by simpa [hCategory, hPage] using h
      have hGlobal : d.isGlobal = false := by
        rw [← Bool.not_eq_true]
        intro hGlobal
        simp [Doclet.not_hasPage_of_isGlobal hGlobal hCategory] at hPage
      exact ⟨c, hPage, Doclet.category?_eq_some_iff.1 hCategory,
        by simp [Doclet.isNamed, hGlobal, hLongname]⟩

/-- A longname that is recorded as having a page has a symbol to show on it. -/
theorem exists_hasSymbols_of_mem {tutorials : List String} {doclets : List Doclet}
    {registersSources : Bool} {ix : SymbolIndex}
    (h : ((empty (.withTutorials tutorials) registersSources).ingest doclets).finalize = .ok ix)
    {longname : String} (hMem : longname ∈ ix.outputLongnames) :
    ∃ c : Category, c.hasPage = true ∧ (ix.symbolsFor longname).hasSymbols (some c) = true := by
  rw [(hasFiled_of_finalize h).outputLongnames, ownPages, List.mem_eraseDups, List.mem_filterMap]
    at hMem
  obtain ⟨d, hd, hPage⟩ := hMem
  obtain ⟨c, hc, hIn, hNamed⟩ := exists_of_ownPage? hPage
  refine ⟨c, hc, ?_⟩
  obtain ⟨place, hPlace, rfl⟩ := List.getElem_of_mem hd
  have hListed := (List.mem_findIdxs_iff_pos_getElem
    (p := fun d => Doclet.isNamed longname d && d.isIn c) hPlace).2 (by simp [hNamed, hIn])
  rw [Bucket.hasSymbols, get_symbolsFor_of_finalize h]
  simpa using List.ne_nil_of_mem hListed

end SymbolIndex

end DocSite

import DocSite.Proofs.Build.Dangling
import DocSite.Proofs.Build.Resolving
import DocSite.Proofs.Symbol.SourceLinks
import DocSite.Proofs.Symbol.WholeNames

/-! No build ends with an error of links of its own. Each of these errors is for a name without an
address, where one was to be used; but the names were registered before. Symbols register theirs
when they are linked, source files at the end of that if they are to have pages, and tutorials
before the first symbol, and an address once registered stays. Only an address that has to be
encoded from a lone surrogate keeps an index from being finished. -/

namespace DocSite

namespace LinkRegistry

theorem tutorialUrl_withTutorials {names : List String} {name : String} (h : name ∈ names) :
    ((withTutorials names).tutorialUrl name).isSome := by
  induction names using List.reverseRecOn with
  | nil => exact absurd h List.not_mem_nil
  | append_singleton names last ih =>
    have hLast : withTutorials (names ++ [last]) =
        ((withTutorials names).registerTutorial last).2 := by
      simp [withTutorials]
    rw [hLast]
    rcases List.mem_append.1 h with hOld | hNew
    · obtain ⟨url, hUrl⟩ := Option.isSome_iff_exists.1 (ih hOld)
      rw [(keeps_registerTutorial _ last).tutorialUrl hUrl, Option.isSome_some]
    · rw [List.mem_singleton.1 hNew]
      exact tutorialUrl_registerTutorial_self _ last

end LinkRegistry

namespace SymbolIndex

variable {ix ix' : SymbolIndex}

theorem IsOpen.tutorials_finalize (h : ix.IsOpen) (hFinalize : ix.finalize = .ok ix') :
    ix'.registry.tutorials = ix.registry.tutorials := by
  obtain ⟨ix₁, l, hFinalize₁, hTutorials, -, hRegistry⟩ :=
    h.finalize_induct (P := fun l _ => l.registry.tutorials = ix.registry.tutorials) rfl
      (fun s _ l _ hSame => by
        obtain ⟨s', l', hLink, -, hTutorials⟩ := l.exists_link ix.outputLongnames s
        exact ⟨s', l', hLink, hTutorials.trans hSame⟩)
      (fun l _ path hSame => (l.registry.tutorials_register path none).trans hSame)
  obtain rfl := Except.ok.inj (hFinalize.symm.trans hFinalize₁)
  rw [hRegistry]
  exact hTutorials

theorem finalized_of_finalize (h : ix.finalize = .ok ix') : ix'.finalized = true := by
  obtain ⟨symbols, registry, rfl, -⟩ := eq_of_finalize h
  rfl

/-- What is linked in a finished index: the longnames of symbols, those with a page of their own,
the source files with a page if there are to be any, and the given tutorials. -/
structure HasAddresses (ix : SymbolIndex) (registersSources : Bool) (tutorials : List String) :
    Prop where
  symbols : ∀ s ∈ ix.retained, ∀ longname, s.longname = some longname →
    (ix.registry.urlFor longname).isSome
  pages : ∀ longname ∈ ix.outputLongnames, (ix.registry.urlFor longname).isSome
  sources : registersSources = true → ∀ shown ∈ ix.sourcePages, (ix.registry.urlFor shown).isSome
  tutorials : ∀ name ∈ tutorials, (ix.registry.tutorialUrl name).isSome

/-- A longname that is recorded as having a page is that of a symbol. -/
theorem exists_symbol_of_mem_outputLongnames {r : LinkRegistry} {doclets : List Doclet}
    {registersSources : Bool}
    (h : ((empty r registersSources).ingest doclets).finalize = .ok ix) {longname : String}
    (hMem : longname ∈ ix.outputLongnames) : ∃ s ∈ ix.retained, s.longname = some longname := by
  rw [(hasFiled_of_finalize h).outputLongnames, ownPages, List.mem_eraseDups, List.mem_filterMap]
    at hMem
  obtain ⟨d, hd, hPage⟩ := hMem
  obtain ⟨s, hs, rfl⟩ := List.mem_map.1 hd
  refine ⟨s, hs, ?_⟩
  unfold Doclet.ownPage? at hPage
  split_ifs at hPage
  exact hPage

/-- The short paths that source pages are made for have addresses if these were asked for. -/
theorem isSome_urlFor_of_mem_sourcePages {r : LinkRegistry} {doclets : List Doclet}
    (h : ((empty r true).ingest doclets).finalize = .ok ix) {shown : String}
    (hMem : shown ∈ ix.sourcePages) : (ix.registry.urlFor shown).isSome := by
  obtain ⟨off, on, -, hOn, hAdds⟩ := exists_addsSources r doclets
  obtain rfl := Except.ok.inj (h.symm.trans hOn)
  cases hUrl : off.registry.urlFor shown with
  | some url => rw [hAdds.urlFor_of_some hUrl, Option.isSome_some]
  | none =>
    rw [hAdds.urlFor_new_iff shown hUrl, ← mem_sourcePages_iff]
    rw [hAdds.index_eq] at hMem
    exact hMem

theorem hasAddresses_finalize {tutorials : List String} {doclets : List Doclet}
    {registersSources : Bool}
    (h : ((empty (.withTutorials tutorials) registersSources).ingest doclets).finalize = .ok ix) :
    ix.HasAddresses registersSources tutorials := by
  have hOpen := (isOpen_empty (.withTutorials tutorials) registersSources).ingest doclets
  have hSymbols := (hasPages_finalize h).2
  constructor
  case symbols => exact hSymbols
  case pages =>
    intro longname hMem
    obtain ⟨s, hs, hLongname⟩ := exists_symbol_of_mem_outputLongnames h hMem
    exact hSymbols s hs longname hLongname
  case sources =>
    rintro rfl shown hMem
    exact isSome_urlFor_of_mem_sourcePages h hMem
  case tutorials =>
    intro name hMem
    have hSame := hOpen.tutorials_finalize h
    rw [registry_ingest] at hSame
    rw [LinkRegistry.tutorialUrl, hSame]
    exact LinkRegistry.tutorialUrl_withTutorials hMem

end SymbolIndex

/-- Of an index in which everything is linked, all pages that a build plans have addresses. -/
theorem Build.isSome_url_of_mem_plan {b : Build} {tree : TutorialTree}
    (h : b.index.HasAddresses b.config.writesSources (tree.tutorials.map Tutorial.name))
    {p : SitePage} (hp : p ∈ b.plan tree) : (p.url? b.registry).isSome := by
  cases p with
  | source shown =>
    obtain ⟨hWrites, hMem⟩ := source_mem_plan_iff.1 hp
    exact h.sources hWrites shown hMem
  | symbol longname => exact h.pages longname (symbol_mem_plan_iff.1 hp).1
  | tutorial name => exact h.tutorials name (tutorial_mem_plan_iff.1 hp)
  | globals => rfl
  | index => rfl
  | toc => rfl

namespace SiteRequest

variable {q : SiteRequest} {t : FileTree}

/-- The index of a site can always be finished, and everything in it is linked. -/
theorem exists_index (q : SiteRequest) : ∃ ix, q.index = .ok ix ∧
    ix.HasAddresses q.config.writesSources (q.tutorials.tutorials.map Tutorial.name) := by
  unfold index
  rw [registryFor_eq]
  obtain ⟨ix, hFinalize⟩ := ((SymbolIndex.isOpen_empty (.withTutorials
    (q.tutorials.tutorials.map Tutorial.name)) q.config.writesSources).ingest
      q.doclets).exists_finalize
  exact ⟨ix, hFinalize, SymbolIndex.hasAddresses_finalize hFinalize⟩

theorem not_isLink_of_prepare {e : BuildError} (h : q.prepare t = .error e) : ¬ e.IsLink := by
  obtain ⟨ix, hIndex, -⟩ := q.exists_index
  have hFinalized : ix.finalized = true := SymbolIndex.finalized_of_finalize hIndex
  rw [prepare_eq, hIndex] at h
  dsimp only at h
  split at h
  next cause _ =>
    obtain rfl : BuildError.index (.address cause) = e := Except.error.inj h
    exact id
  · split at h
    next cause _ =>
      obtain rfl : BuildError.file cause = e := Except.error.inj h
      exact id
    · rw [Build.start, if_pos hFinalized] at h
      cases h

/-- No build ends with an error of links or of the state of its index that a view has not raised.
Doclets are always taken, and an index over a fresh registry is finished unless an address cannot
be encoded, since the link of a symbol does not fail, whatever has been linked before. The index
of a site has an address for every longname of a symbol, every longname with a page, every source
file that gets a page and every tutorial; it stays the same through the build, so no page that is
made lacks its address. -/
theorem build_resolves (q : SiteRequest) (t : FileTree) :
    (∀ (doclets : List Doclet) (registersSources : Bool),
      ∃ ix, SymbolIndex.FinishesFresh registersSources doclets ix) ∧
    (∀ (l : SymbolIndex.Linking) (needsFile : List String) (s : Symbol),
      ∃ s' l', l.link needsFile s = .ok (s', l') ∧
        ∀ longname, s.longname = some longname → (l'.registry.urlFor longname).isSome) ∧
    ∃ ix, q.index = .ok ix ∧
      ix.HasAddresses q.config.writesSources (q.tutorials.tutorials.map Tutorial.name) ∧
      (∀ b, q.prepare t = .ok b → b.index = ix ∧
        b.SameBasis ((BuildM.wholeSite q.tutorials q.readme).run.run b).2) ∧
      ∀ e, (q.build t).1 = .error e → e.IsLink → e.IsRaisedBy q.tools ix.registry := by
  obtain ⟨ix, hIndex, hAddresses⟩ := q.exists_index
  have hRuns : ∀ b, q.prepare t = .ok b → b.index = ix ∧ b.tools = q.tools ∧
      BuildM.Resolves (BuildM.wholeSite q.tutorials q.readme) b := by
    intro b hPrepare
    obtain ⟨template, hIndex', hStart⟩ := exists_template_of_prepare hPrepare
    obtain rfl := Except.ok.inj (hIndex.symm.trans hIndex')
    have hTools : b.tools = q.tools := by rw [hStart]
    have hConfig : b.config = q.config := by rw [hStart]
    rw [← hConfig] at hAddresses
    exact ⟨rfl, hTools,
      BuildM.resolves_wholeSite fun p hp => Build.isSome_url_of_mem_plan hAddresses hp⟩
  refine ⟨?_, ?_, ix, hIndex, hAddresses, fun b hPrepare => ?_, ?_⟩
  · exact fun doclets registersSources => SymbolIndex.exists_finishesFresh registersSources doclets
  · intro l needsFile s
    obtain ⟨s', l', hLink, hSelf, -⟩ := l.exists_link needsFile s
    exact ⟨s', l', hLink, hSelf⟩
  · exact ⟨(hRuns b hPrepare).1, (hRuns b hPrepare).2.2.basis⟩
  · intro e hError hLink
    unfold build at hError
    cases hPrepare : q.prepare t with
    | error cause =>
      rw [hPrepare] at hError
      obtain rfl := Except.error.inj hError
      exact absurd hLink (not_isLink_of_prepare hPrepare)
    | ok b =>
      rw [hPrepare] at hError
      obtain ⟨rfl, hTools, hResolves⟩ := hRuns b hPrepare
      have hRaised := hResolves.raised
      rcases hRun : (BuildM.wholeSite q.tutorials q.readme).run.run b with ⟨cause | _, b'⟩
      · rw [hRun, hTools] at hRaised
        simp only [hRun, Except.map] at hError
        obtain rfl := Except.error.inj hError
        exact hRaised _ rfl hLink
      · simp [hRun, Except.map] at hError

end SiteRequest

end DocSite

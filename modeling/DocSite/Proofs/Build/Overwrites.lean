import DocSite.Proofs.Build.Beginning
import DocSite.Proofs.Build.Clash
import DocSite.Proofs.Symbol.Linking

/-! When a page of a site overwrites another one. A build that comes to its end has written
pages of its plan, in order and each at most once, so a file is written twice exactly if
two of these pages clash. -/

namespace DocSite

namespace SymbolIndex

/-- The link of one symbol keeps pages apart. -/
theorem Linking.pagesApart_link {l : Linking} {needsFile : List String}
    (h : l.registry.PagesApart (LinkRegistry.Owns needsFile)) (s : Symbol) :
    ∃ s' l', l.link needsFile s = .ok (s', l') ∧
      l'.registry.PagesApart (LinkRegistry.Owns needsFile) := by
  cases hLongname : s.longname with
  | none => exact ⟨s, l, l.link_of_none needsFile hLongname, h⟩
  | some longname =>
    obtain ⟨url, r, hCreate, -, hLink⟩ := l.link_of_some needsFile hLongname
    have hLinked := h.createLinkFor s longname
    rw [hCreate] at hLinked
    rcases assignId_cases { l with registry := r } s longname url with
      ⟨_, _, _, _, hEq⟩ | ⟨_, hEq | ⟨candidate, hEq⟩⟩
    · exact ⟨_, _, hLink hEq, hLinked⟩
    · exact ⟨_, _, hLink hEq, hLinked⟩
    · exact ⟨_, _, hLink hEq, hLinked.issueId url candidate⟩

/-- In a finished index the longnames that have pages are recorded once, and own these. -/
theorem pagesApart_finalize {tutorials : List String} {doclets : List Doclet}
    {registersSources : Bool} {ix : SymbolIndex}
    (h : ((empty (.withTutorials tutorials) registersSources).ingest doclets).finalize = .ok ix) :
    ix.registry.PagesApart (LinkRegistry.Owns ix.outputLongnames) ∧ ix.outputLongnames.Nodup := by
  have hOpen := (isOpen_empty (.withTutorials tutorials) registersSources).ingest doclets
  obtain ⟨ix', l, hFinalize, hApart, hNeedsFile, hRegistry⟩ :=
    hOpen.finalize_induct (P := fun l _ => l.registry.PagesApart (LinkRegistry.Owns _))
      (by rw [registry_ingest]; exact LinkRegistry.pagesApart_withTutorials _ tutorials)
      (fun s _ l _ hApart => Linking.pagesApart_link hApart s)
      (fun l _ path hApart => hApart.register path)
  obtain rfl := Except.ok.inj (h.symm.trans hFinalize)
  rw [hRegistry, hNeedsFile]
  have hEmpty : (empty (.withTutorials tutorials) registersSources).outputLongnames.Nodup :=
    List.nodup_nil
  exact ⟨hApart, nodup_outputLongnames_ingest hEmpty doclets⟩

end SymbolIndex

namespace SiteRequest

variable {q : SiteRequest} {t : FileTree} {b : Build}

theorem registryFor_eq (tree : TutorialTree) :
    registryFor tree = .withTutorials (tree.tutorials.map Tutorial.name) := by
  rw [registryFor, LinkRegistry.withTutorials, List.foldl_map]

/-- In a build that comes to its end, with tutorials of different names, the pages written are
pages of the plan, in order, and all of them if nothing has failed; each is written to the
file of its address. No page overwrites another one exactly if no two of them clash. -/
theorem nodup_written_iff (hNames : (q.tutorials.tutorials.map Tutorial.name).Nodup)
    (h : (q.build t).1 = .ok b) :
    ∃ done : List SitePage, done.Sublist (b.plan q.tutorials) ∧
      b.written = done.map b.pathOf ∧ (b.failures = [] → done = b.plan q.tutorials) ∧
      (b.written.Nodup ↔ done.Pairwise fun p q => ¬ SitePage.Clash b.registry p q) := by
  obtain ⟨b₀, hWritten₀, hFailures₀, hIndex, hRun⟩ := runs_of_build h
  have hWrote := hRun.wholeSite
  rw [← hWrote.basis.index, SiteRequest.index, registryFor_eq] at hIndex
  obtain ⟨hApart, hLongnames⟩ := SymbolIndex.pagesApart_finalize hIndex
  obtain ⟨done, hDone, hWritten, hAll⟩ := hWrote.written
  have hPlan : b.plan q.tutorials = b₀.plan q.tutorials := hWrote.basis.plan q.tutorials
  have hLinked : ∀ p ∈ done, (p.url? b.registry).isSome := by
    intro p hp
    rw [hWrote.basis.registry]
    exact hWrote.linked p (hDone.subset hp)
  rw [← hPlan] at hDone hAll
  rw [hWritten₀, List.nil_append, ← hWrote.basis.pathOf] at hWritten
  rw [hFailures₀] at hAll
  refine ⟨done, hDone, hWritten, hAll, ?_⟩
  rw [hWritten]
  refine Build.nodup_map_pathOf_iff hApart ((Build.ordered_plan hNames hLongnames).sublist hDone)
    hLinked fun longname hLongname => ?_
  exact Build.mem_outputLongnames_of_mem_plan (hDone.subset hLongname)

/-- A site of a namespace with the name of the page of globals, and of a global function. -/
def globalNamespaceSite : SiteRequest where
  doclets := [.bare "namespace" "global" "global" none, .bare "function" "f" "f" none]
  destination := ⟨.here, ["site"]⟩
  template := some ⟨.here, ["template"]⟩
  base := ⟨.root, []⟩

theorem nodup_written_iff_globalNamespaceSite :
    (globalNamespaceSite.tutorials.tutorials.map Tutorial.name).Nodup ∧
    ∃ b, (globalNamespaceSite.build projectFiles).1 = .ok b ∧
      ∃ done : List SitePage, done.Sublist (b.plan globalNamespaceSite.tutorials) ∧
        b.written = done.map b.pathOf ∧
        (b.failures = [] → done = b.plan globalNamespaceSite.tutorials) ∧
        (b.written.Nodup ↔ done.Pairwise fun p q => ¬ SitePage.Clash b.registry p q) := by
  have hNames : (globalNamespaceSite.tutorials.tutorials.map Tutorial.name).Nodup := by decide
  have hEnds : (globalNamespaceSite.build projectFiles).1.toOption.isSome = true := by
    rw [build, prepare_of_templateIn (templateIn_projectFiles rfl)]
    decide +kernel
  obtain ⟨b, hRun⟩ := Option.isSome_iff_exists.1 hEnds
  have hBuild := eq_ok_of_toOption hRun
  exact ⟨hNames, b, hBuild, nodup_written_iff hNames hBuild⟩

/-- The page of the namespace overwrites that of globals, and nothing fails. -/
theorem written_globalNamespaceSite :
    (globalNamespaceSite.tutorials.tutorials.map Tutorial.name).Nodup ∧
    ∃ b, (globalNamespaceSite.build projectFiles).1 = .ok b ∧ b.failures = [] ∧ ¬ b.written.Nodup := by
  have hRun : ((globalNamespaceSite.build projectFiles).1.toOption.map fun b =>
      (b.failures, decide b.written.Nodup)) = some ([], false) := by
    rw [build, prepare_of_templateIn (templateIn_projectFiles rfl)]
    decide +kernel
  obtain ⟨b, hBuild, hEq⟩ := Option.map_eq_some_iff.1 hRun
  obtain ⟨hFailures, hWritten⟩ := Prod.mk.inj hEq
  exact ⟨by decide, b, eq_ok_of_toOption hBuild, hFailures, of_decide_eq_false hWritten⟩

end SiteRequest

end DocSite

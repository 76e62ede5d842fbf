import DocSite.Proofs.Build.Overwrites
import DocSite.Proofs.Symbol.OwnPages

/-! When the address of a symbol leads to a page that the build has made. Addresses are given
out by where symbols belong, and pages are made for what the tables of the index list, so
it depends on the name that the page was issued for: the page of globals is made if there
are globals, and any other page of symbols if its name is recorded as having a page and is
not that of a package, which is shown on the front page. -/

namespace DocSite

namespace Build

variable {b : Build} {tree : TutorialTree}

/-- Whether the symbols of the page that was issued for a name are shown on it. -/
def ShowsPageOf (b : Build) (name : String) : Prop :=
  name = globalName ∧ b.index.globals.hasSymbols none = true ∨
    name ∈ b.index.outputLongnames ∧ BuildM.packageLead.toList.isPrefixOf name.toList = false

/-! ### The files of the plan -/

/-- A page that is written to the file of a named page has a name, whose address leads to the
same page. -/
theorem pathOf_eq_iff_of_name {needsFile : List String}
    (h : b.registry.PagesApart (LinkRegistry.Owns needsFile)) {p q : SitePage} {name : String}
    (hName : q.name? = some name) (hLinked : (p.url? b.registry).isSome)
    (hLinked' : (q.url? b.registry).isSome) : b.pathOf p = b.pathOf q ↔
      ∃ other, p.name? = some other ∧ b.registry.pageOf? other = b.registry.pageOf? name := by
  have hToc' : q ≠ .toc := by
    rintro rfl
    simp [SitePage.name?] at hName
  cases hOther : p.name? with
  | some other =>
    have hToc : p ≠ .toc := by
      rintro rfl
      simp [SitePage.name?] at hOther
    rw [pathOf_eq_iff h hLinked hLinked' hToc hToc', SitePage.page?_of_name h hName,
      SitePage.page?_of_name h hOther]
    simp
  | none =>
    refine iff_of_false ?_ (by simp)
    cases p with
    | index =>
      rw [pathOf_eq_iff h hLinked hLinked' (by simp) hToc']
      exact (SitePage.page?_ne_index h hName hLinked').symm
    | tutorial tutorial =>
      rw [pathOf_eq_iff h hLinked hLinked' (by simp) hToc']
      exact (SitePage.page?_ne_tutorial h hName hLinked' hLinked).symm
    | toc => exact (pathOf_ne_toc h hLinked' hToc').symm
    | source _ => simp [SitePage.name?] at hOther
    | globals => simp [SitePage.name?] at hOther
    | symbol _ => simp [SitePage.name?] at hOther

theorem source_mem_plan_iff {shown : String} : .source shown ∈ b.plan tree ↔
    b.config.writesSources = true ∧ shown ∈ b.index.sourcePages := by
  cases h : b.config.writesSources <;> cases h' : b.index.globals.hasSymbols none <;>
    simp [plan, sourcePlan, globalsPlan, symbolPlan, tutorialPlan, h, h']

theorem globals_mem_plan_iff :
    .globals ∈ b.plan tree ↔ b.index.globals.hasSymbols none = true := by
  cases h : b.config.writesSources <;> cases h' : b.index.globals.hasSymbols none <;>
    simp [plan, sourcePlan, globalsPlan, symbolPlan, tutorialPlan, h, h']

theorem symbol_mem_plan_iff {longname : String} : .symbol longname ∈ b.plan tree ↔
    longname ∈ b.index.outputLongnames ∧ b.hasSymbolPage longname = true := by
  cases h : b.config.writesSources <;> cases h' : b.index.globals.hasSymbols none <;>
    simp [plan, sourcePlan, globalsPlan, symbolPlan, tutorialPlan, h, h']

theorem tutorial_mem_plan_iff {name : String} :
    .tutorial name ∈ b.plan tree ↔ name ∈ tree.tutorials.map Tutorial.name := by
  cases h : b.config.writesSources <;> cases h' : b.index.globals.hasSymbols none <;>
    simp [plan, sourcePlan, globalsPlan, symbolPlan, tutorialPlan, h, h']

end Build

namespace SiteRequest

variable {q : SiteRequest} {t : FileTree} {b : Build}

theorem finalize_of_build (h : (q.build t).1 = .ok b) :
    ((SymbolIndex.empty (.withTutorials (q.tutorials.tutorials.map Tutorial.name))
      q.config.writesSources).ingest q.doclets).finalize = .ok b.index := by
  obtain ⟨b₀, -, -, hIndex, hRun⟩ := runs_of_build h
  rwa [← hRun.wholeSite.basis.index, SiteRequest.index, registryFor_eq] at hIndex

/-- A build in which nothing fails writes all pages of its plan. -/
theorem written_eq_of_build (h : (q.build t).1 = .ok b) (hOk : b.failures = []) :
    b.written = (b.plan q.tutorials).map b.pathOf ∧
      ∀ p ∈ b.plan q.tutorials, (p.url? b.registry).isSome := by
  obtain ⟨b₀, hWritten₀, hFailures₀, -, hRun⟩ := runs_of_build h
  have hWrote := hRun.wholeSite
  obtain ⟨done, -, hWritten, hAll⟩ := hWrote.written
  rw [hWrote.basis.plan, hWrote.basis.pathOf, hWrote.basis.registry]
  rw [hWritten₀, List.nil_append, hAll (hOk.trans hFailures₀.symm)] at hWritten
  exact ⟨hWritten, hWrote.linked⟩

/-- A longname that is recorded as having a page has one, unless it is that of a package. -/
theorem hasSymbolPage_iff (h : (q.build t).1 = .ok b) {longname : String}
    (hMem : longname ∈ b.index.outputLongnames) : b.hasSymbolPage longname = true ↔
      BuildM.packageLead.toList.isPrefixOf longname.toList = false := by
  obtain ⟨c, hPage, hSymbols⟩ := SymbolIndex.exists_hasSymbols_of_mem (finalize_of_build h) hMem
  have hSome : c ∈ BuildM.pageCategories b longname :=
    List.mem_filter.2 ⟨c.mem_all, by simp [hPage, hSymbols]⟩
  simp [Build.hasSymbolPage, List.ne_nil_of_mem hSome]

/-- After a build in which nothing fails, the file that the address of a longname leads to has
been written exactly if the page of the name that it was issued for is shown, or it is the
page of a source file. -/
theorem mem_written_iff (h : (q.build t).1 = .ok b) (hOk : b.failures = []) {s : Symbol}
    (hs : s ∈ b.index.retained) {longname : String} (hLongname : s.longname = some longname) :
    ∃ url name, b.registry.urlFor longname = some url ∧
      b.registry.urlFor name = some (splitFragment url).1 ∧
      b.registry.IssuedFor (splitFragment url).1 name ∧
      (b.outputPath url ∈ b.written ↔ b.ShowsPageOf name ∨
        b.config.writesSources = true ∧ ∃ shown ∈ b.index.sourcePages,
          b.registry.pageOf? shown = some (splitFragment url).1) := by
  have hFinalize := finalize_of_build h
  have hApart : b.registry.PagesApart (LinkRegistry.Owns b.index.outputLongnames) :=
    (SymbolIndex.pagesApart_finalize hFinalize).1
  have hIssued : b.registry.PagesIssued (LinkRegistry.Owns b.index.outputLongnames) :=
    (SymbolIndex.hasPages_finalize hFinalize).1
  have hSome : ((SitePage.symbol longname).url? b.registry).isSome :=
    (SymbolIndex.hasPages_finalize hFinalize).2 s hs longname hLongname
  obtain ⟨hWritten, hLinked⟩ := written_eq_of_build h hOk
  obtain ⟨url, hUrl⟩ := Option.isSome_iff_exists.1 hSome
  obtain ⟨name, hName, hFor⟩ := hIssued.named hUrl
  refine ⟨url, name, hUrl, hName, hFor, ?_⟩
  have hPath : b.pathOf (.symbol longname) = b.outputPath url := by
    rw [Build.pathOf, hUrl, Option.getD_some]
  have hPage : b.registry.pageOf? longname = some (splitFragment url).1 :=
    LinkRegistry.pageOf?_of_urlFor hUrl
  have hFile : ∀ p ∈ b.plan q.tutorials, (b.pathOf p = b.outputPath url ↔
      ∃ other, p.name? = some other ∧
        b.registry.pageOf? other = some (splitFragment url).1) := by
    intro p hp
    rw [← hPath, ← hPage]
    exact Build.pathOf_eq_iff_of_name hApart rfl (hLinked p hp) hSome
  rw [hWritten, List.mem_map]
  constructor
  · rintro ⟨p, hp, hEq⟩
    obtain ⟨other, hOther, hSame⟩ := (hFile p hp).1 hEq
    cases p with
    | source shown =>
      obtain rfl := Option.some.inj hOther
      obtain ⟨hWrites, hShown⟩ := Build.source_mem_plan_iff.1 hp
      exact .inr ⟨hWrites, shown, hShown, hSame⟩
    | globals =>
      obtain rfl := Option.some.inj hOther
      obtain rfl := (hIssued.pageOf?_eq_iff (.inr rfl) (by simp [hApart.global_url]) hName hFor).1
        hSame
      exact .inl (.inl ⟨rfl, Build.globals_mem_plan_iff.1 hp⟩)
    | symbol other =>
      obtain rfl := Option.some.inj hOther
      obtain ⟨hMem, hShows⟩ := Build.symbol_mem_plan_iff.1 hp
      obtain rfl := (hIssued.pageOf?_eq_iff (.inl hMem) (hLinked _ hp) hName hFor).1 hSame
      exact .inl (.inr ⟨hMem, (hasSymbolPage_iff h hMem).1 hShows⟩)
    | index => simp [SitePage.name?] at hOther
    | tutorial _ => simp [SitePage.name?] at hOther
    | toc => simp [SitePage.name?] at hOther
  · have hSelf : b.registry.pageOf? name = some (splitFragment url).1 := by
      rw [LinkRegistry.pageOf?_of_urlFor hName, splitFragment_of_not_mem hFor.hash_not_mem]
    rintro ((⟨rfl, hGlobals⟩ | ⟨hMem, hShows⟩) | ⟨hWrites, shown, hShown, hSame⟩)
    · have hp : .globals ∈ b.plan q.tutorials := Build.globals_mem_plan_iff.2 hGlobals
      exact ⟨.globals, hp, (hFile _ hp).2 ⟨globalName, rfl, hSelf⟩⟩
    · have hp : .symbol name ∈ b.plan q.tutorials :=
        Build.symbol_mem_plan_iff.2 ⟨hMem, (hasSymbolPage_iff h hMem).2 hShows⟩
      exact ⟨.symbol name, hp, (hFile _ hp).2 ⟨name, rfl, hSelf⟩⟩
    · have hp : .source shown ∈ b.plan q.tutorials :=
        Build.source_mem_plan_iff.2 ⟨hWrites, hShown⟩
      exact ⟨.source shown, hp, (hFile _ hp).2 ⟨shown, rfl, hSame⟩⟩

/-- A site of a package and of a class. -/
def packageSite : SiteRequest where
  doclets := [.bare "package" "package:demo" "demo" none, .bare "class" "Foo" "Foo" none]
  destination := ⟨.here, ["site"]⟩
  template := some ⟨.here, ["template"]⟩
  base := ⟨.root, []⟩

theorem mem_written_iff_packageSite :
    ∃ b, (packageSite.build projectFiles).1 = .ok b ∧ b.failures = [] ∧
      ∃ s ∈ b.index.retained, s.longname = some "package:demo" ∧
        ∃ url name, b.registry.urlFor "package:demo" = some url ∧
          b.registry.urlFor name = some (splitFragment url).1 ∧
          b.registry.IssuedFor (splitFragment url).1 name ∧
          (b.outputPath url ∈ b.written ↔ b.ShowsPageOf name ∨
            b.config.writesSources = true ∧ ∃ shown ∈ b.index.sourcePages,
              b.registry.pageOf? shown = some (splitFragment url).1) := by
  have hRun : ((packageSite.build projectFiles).1.toOption.map fun b =>
      (b.failures, b.index.retained.head?.map Symbol.longname)) =
        some ([], some (some "package:demo")) := by
    rw [build, prepare_of_templateIn (templateIn_projectFiles rfl)]
    decide +kernel
  obtain ⟨b, hBuild, hEq⟩ := Option.map_eq_some_iff.1 hRun
  obtain ⟨hOk, hHead⟩ := Prod.mk.inj hEq
  obtain ⟨s, hs, hLongname⟩ := Option.map_eq_some_iff.1 hHead
  have hMem := List.mem_of_head? hs
  have hBuild := eq_ok_of_toOption hBuild
  exact ⟨b, hBuild, hOk, s, hMem, hLongname, mem_written_iff hBuild hOk hMem hLongname⟩

/-- The address of the package is on the page of globals, which is not made, and nothing
fails. -/
theorem not_mem_written_packageSite :
    ∃ b, (packageSite.build projectFiles).1 = .ok b ∧ b.failures = [] ∧
      ∃ s ∈ b.index.retained, s.longname = some "package:demo" ∧
        ∃ url, b.registry.urlFor "package:demo" = some url ∧ b.outputPath url ∉ b.written := by
  have hRun : ((packageSite.build projectFiles).1.toOption.map fun b =>
      (b.failures, b.index.retained.head?.map Symbol.longname,
        (b.registry.urlFor "package:demo").map fun url => decide (b.outputPath url ∈ b.written))) =
        some ([], some (some "package:demo"), some false) := by
    rw [build, prepare_of_templateIn (templateIn_projectFiles rfl)]
    decide +kernel
  obtain ⟨b, hBuild, hEq⟩ := Option.map_eq_some_iff.1 hRun
  obtain ⟨hOk, hEq⟩ := Prod.mk.inj hEq
  obtain ⟨hHead, hUrl⟩ := Prod.mk.inj hEq
  obtain ⟨s, hs, hLongname⟩ := Option.map_eq_some_iff.1 hHead
  obtain ⟨url, hUrl, hNot⟩ := Option.map_eq_some_iff.1 hUrl
  exact ⟨b, eq_ok_of_toOption hBuild, hOk, s, List.mem_of_head? hs, hLongname, url, hUrl,
    of_decide_eq_false hNot⟩

end SiteRequest

end DocSite

import DocSite.Proofs.Build.Dangling
import DocSite.Proofs.Symbol.SourceFiles
import DocSite.Proofs.Tutorial.Levels
import DocSite.Proofs.Tutorial.Loading

/-! What a build writes in which nothing fails. Its pages are known from the request alone,
before anything is indexed: the source files, longnames and globals of the retained doclets
and the levels of the tutorials give all of them, in order. No page that is planned is left
out on the way, since a longname is recorded as having a page only for a symbol to show. -/

namespace DocSite

/-- Whether the doclet is listed on the page of globals. A class or function that a module
exports is shown with the module instead, whatever encloses it. -/
def Doclet.isListedGlobal (d : Doclet) : Bool := d.isGlobal && !d.isExportCandidate

/-- The kinds of globals have categories. -/
theorem Doclet.isSome_category?_of_isGlobal {d : Doclet} (h : d.isGlobal = true) :
    d.category?.isSome = !d.isExportCandidate := by
  have hKind : d.kind ∈ globalKinds := by simp_all [isGlobal]
  have hOf : (Category.ofKind? d.kind).isSome = true := by
    simp only [globalKinds, List.mem_cons, List.not_mem_nil, or_false] at hKind
    rcases hKind with hKind | hKind | hKind | hKind <;> rw [hKind] <;> rfl
  cases hCandidate : d.isExportCandidate <;> simp [category?, hCandidate, hOf]

namespace SymbolIndex

theorem hasSymbols_filings (keep : Doclet → Bool) (doclets : List Doclet) :
    (⟨filings keep doclets⟩ : Bucket).hasSymbols none =
      doclets.any fun d => keep d && d.category?.isSome := by
  induction doclets using List.reverseRecOn with
  | nil => rfl
  | append_singleton doclets d ih =>
    rw [List.any_append, ← ih, filings_concat]
    cases hKeep : keep d <;> cases hCategory : d.category? <;>
      simp [Bucket.hasSymbols, hKeep, hCategory]

/-- There are globals exactly if some doclet is listed as one. -/
theorem hasSymbols_globals (doclets : List Doclet) :
    (⟨filings Doclet.isGlobal doclets⟩ : Bucket).hasSymbols none =
      doclets.any Doclet.isListedGlobal := by
  rw [hasSymbols_filings]
  congr 1
  funext d
  cases hGlobal : d.isGlobal with
  | false => simp [Doclet.isListedGlobal, hGlobal]
  | true => simp [Doclet.isListedGlobal, hGlobal, Doclet.isSome_category?_of_isGlobal]

end SymbolIndex

namespace SiteRequest

variable (q : SiteRequest)

/-- The doclets that become symbols. -/
def retained : List Doclet := q.doclets.filter Doclet.isRetained

/-- The pages of a site in the order in which they are made, as the request asks for them. -/
def pages : List SitePage :=
  (if q.config.writesSources then
    (SourcePath.shortened (Doclet.sourcePaths q.retained)).map .source else []) ++
  (if q.retained.any Doclet.isListedGlobal then [.globals] else []) ++
  [.index] ++
  ((SymbolIndex.ownPages q.retained).filter fun longname =>
    !BuildM.packageLead.toList.isPrefixOf longname.toList).map .symbol ++
  ((q.tutorials.levels q.tutorials.nodes.length).filterMap q.tutorials.tutorial?).map
    (fun t => .tutorial t.name) ++
  [.toc]

variable {q} {t : FileTree} {b : Build}

/-- What the tables of the finished index say of the doclets of the request. -/
theorem tables_of_build (h : (q.build t).1 = .ok b) :
    b.index.sourcePages = SourcePath.shortened (Doclet.sourcePaths q.retained) ∧
      b.index.globals.hasSymbols none = q.retained.any Doclet.isListedGlobal ∧
      b.index.outputLongnames = SymbolIndex.ownPages q.retained := by
  have hFinalize := finalize_of_build h
  have hFiled := SymbolIndex.hasFiled_of_finalize hFinalize
  have hDoclets : b.index.doclets = q.retained := by
    rw [(SymbolIndex.finishes_of_finalize hFinalize).doclets_eq,
      ((SymbolIndex.hasAdded_empty _ _).ingest q.doclets).doclets, List.nil_append, retained]
  rw [hFiled.globals, hFiled.outputLongnames, hDoclets, SymbolIndex.hasSymbols_globals]
  exact ⟨SymbolIndex.sourcePages_of_finalize hFinalize, rfl, rfl⟩

/-- The pages that the build plans are those that the request asks for. -/
theorem plan_eq_pages (hForest : q.tutorials.IsForest) (h : (q.build t).1 = .ok b)
    (hConfig : b.config = q.config) : b.plan q.tutorials = q.pages := by
  obtain ⟨hSources, hGlobals, hLongnames⟩ := tables_of_build h
  have hSymbols : b.index.outputLongnames.filter b.hasSymbolPage =
      b.index.outputLongnames.filter fun longname =>
        !BuildM.packageLead.toList.isPrefixOf longname.toList := by
    refine List.filter_congr fun longname hMem => ?_
    rw [Bool.eq_iff_iff, hasSymbolPage_iff h hMem, Bool.not_eq_true']
  rw [Build.plan, pages, Build.sourcePlan, Build.globalsPlan, Build.symbolPlan, Build.tutorialPlan,
    TutorialTree.tutorials, hForest.flatten_eq, hSymbols, hConfig, hSources, hGlobals, hLongnames]

/-- What a build leaves behind in which nothing fails. -/
structure WritesAll (q : SiteRequest) (b : Build) : Prop where
  /-- The addresses are those of the finished index of the doclets. -/
  index : q.index = .ok b.index
  destination : b.destination = q.destination
  /-- Every page that is asked for has an address. -/
  linked : ∀ p ∈ q.pages, (p.url? b.registry).isSome
  /-- The pages are written in their order, each to the file of its address. -/
  written : b.written = q.pages.map b.pathOf
  /-- The longnames with a page are those of the retained doclets whose category asks for one. -/
  longnames : b.index.outputLongnames = SymbolIndex.ownPages q.retained
  /-- Each of them has a symbol with a page under it. -/
  shown : ∀ longname ∈ b.index.outputLongnames, ∃ c : Category, c.hasPage = true ∧
    (b.index.symbolsFor longname).hasSymbols (some c) = true

/-- A build that comes to its end and in which nothing fails writes the pages that the request
asks for, all of them and in their order. -/
theorem writesAll_of_build (hForest : q.tutorials.IsForest) (h : (q.build t).1 = .ok b)
    (hOk : b.failures = []) : q.WritesAll b := by
  obtain ⟨b₀, hPrepare, hRun⟩ := exists_prepare_of_build h
  obtain ⟨template, hIndex, hStart⟩ := exists_template_of_prepare hPrepare
  have hBasis := hRun.wholeSite.basis
  have hConfig : b₀.config = q.config := by rw [hStart]
  have hDestination : b₀.destination = q.destination := by rw [hStart]
  have hPlan := plan_eq_pages hForest h (hBasis.config.trans hConfig)
  obtain ⟨hWritten, hLinked⟩ := written_eq_of_build h hOk
  rw [hPlan] at hWritten hLinked
  exact
    { index := hBasis.index ▸ hIndex
      destination := hBasis.destination.trans hDestination
      linked := hLinked
      written := hWritten
      longnames := (tables_of_build h).2.2
      shown := fun longname hMem =>
        SymbolIndex.exists_hasSymbols_of_mem (finalize_of_build h) hMem }

/-- A site of a class in a source file, of a global function and of two tutorials. -/
def smallSite : SiteRequest where
  doclets := [{ Doclet.bare "class" "Foo" "Foo" none with location := some ⟨none, "a.js", none, []⟩ },
    .bare "function" "f" "f" none]
  destination := ⟨.here, ["site"]⟩
  tutorials := .top [⟨"one", "One", "", .html⟩, ⟨"two", "Two", "", .html⟩]
  template := some ⟨.here, ["template"]⟩
  base := ⟨.root, []⟩

theorem writesAll_smallSite : smallSite.tutorials.IsForest ∧
    ∃ b, (smallSite.build projectFiles).1 = .ok b ∧ b.failures = [] ∧
      smallSite.WritesAll b := by
  have hForest : smallSite.tutorials.IsForest := (TutorialTree.isRooted_top _).isForest
  have hRun : ((smallSite.build projectFiles).1.toOption.map Build.failures) =
      some [] := by
    rw [build, prepare_of_templateIn (templateIn_projectFiles rfl)]
    decide +kernel
  obtain ⟨b, hBuild, hOk⟩ := Option.map_eq_some_iff.1 hRun
  have hBuild := eq_ok_of_toOption hBuild
  exact ⟨hForest, b, hBuild, hOk, writesAll_of_build hForest hBuild hOk⟩

example : smallSite.pages = [.source "a.js", .globals, .index, .symbol "Foo", .tutorial "one",
    .tutorial "two", .toc] := by
  decide +kernel

/-- A site of a member that bears the longname of a module as its name, which a module cannot
export. -/
def moduleMemberSite : SiteRequest where
  doclets := [.bare "member" "module:x" "module:x" none]
  destination := ⟨.here, ["site"]⟩
  template := some ⟨.here, ["template"]⟩
  base := ⟨.root, []⟩

/-- The page of globals is written, though the only symbol bears the longname of a module as its
name. -/
theorem written_moduleMemberSite :
    moduleMemberSite.tutorials.IsForest ∧
    ∃ b, (moduleMemberSite.build projectFiles).1 = .ok b ∧ b.failures = [] ∧
      (∀ s ∈ b.index.retained, s.isGlobal = true → s.doclet.isModuleExport = true) ∧
      b.written = [SitePage.globals, .index, .toc].map b.pathOf := by
  have hForest : moduleMemberSite.tutorials.IsForest := (TutorialTree.isRooted_top []).isForest
  have hRun : ((moduleMemberSite.build projectFiles).1.toOption.map fun b => (b.failures,
      b.index.retained.all fun s => s.doclet.isModuleExport,
      decide (b.written = [SitePage.globals, .index, .toc].map b.pathOf))) =
        some ([], true, true) := by
    rw [build, prepare_of_templateIn (templateIn_projectFiles rfl)]
    decide +kernel
  obtain ⟨b, hBuild, hEq⟩ := Option.map_eq_some_iff.1 hRun
  obtain ⟨hOk, hEq⟩ := Prod.mk.inj hEq
  obtain ⟨hExports, hWritten⟩ := Prod.mk.inj hEq
  exact ⟨hForest, b, eq_ok_of_toOption hBuild, hOk,
    fun s hs _ => List.all_eq_true.1 hExports s hs, of_decide_eq_true hWritten⟩

end SiteRequest

end DocSite

import DocSite.Proofs.Build.Runs

/-! Which pages a build writes. Every step that makes a page writes at most that page, and
notes a failure if it does not; the whole build goes through the pages in a fixed order. -/

namespace DocSite

namespace BuildM

variable {b b' : Build} {u : Unit}

/-- A file is written and noted, or it is not and that is noted. -/
theorem Runs.write {path : Path} {text : String} {done : Bool}
    (h : Runs (write path text) b done b') :
    (∃ files, b' = { b with files, written := b.written ++ [path] }) ∨
      ∃ files failure, b' = { b with files, failures := b.failures ++ [failure] } := by
  rw [BuildM.write, runs_get_bind_iff] at h
  obtain ⟨result, b₁, hFiles, hRest⟩ := runs_bind_iff.1 h
  obtain ⟨files, rfl⟩ := hFiles.onFiles
  cases result with
  | ok _ =>
    dsimp only at hRest
    rw [runs_modify_bind_iff, runs_pure_iff] at hRest
    exact .inl ⟨files, hRest.2⟩
  | error e =>
    dsimp only at hRest
    split at hRest
    · exact absurd hRest not_runs_throw_bind
    · rw [fail, runs_modify_bind_iff, runs_pure_iff] at hRest
      exact .inr ⟨files, _, hRest.2⟩

theorem wrote_of_write {text : String} {done : Bool} {page : SitePage} {url : String}
    (hUrl : page.url? b.registry = some url)
    (h : Runs (write (b.outputPath url) text) b done b') : Build.Wrote [page] b b' := by
  have hPath : b.pathOf page = b.outputPath url := by rw [Build.pathOf, hUrl, Option.getD_some]
  have hLinked : ∀ p ∈ [page], (p.url? b.registry).isSome := by simp [hUrl]
  obtain ⟨files, rfl⟩ | ⟨files, failure, rfl⟩ := h.write
  · exact ⟨.noted, List.prefix_refl _, hLinked, [page], .refl _,
      by simp [hPath], fun _ => rfl⟩
  · refine ⟨.noted, List.prefix_append _ _, hLinked, [], List.nil_sublist _,
      by simp, ?_⟩
    simp

/-- A page that is shown is written to the file of its address. -/
theorem Runs.exists_write {view url : String} {data : Datum} {resolves : Bool}
    (h : Runs (generate view data url resolves) b u b') :
    ∃ text done, Runs (BuildM.write (b.outputPath url) text) b done b' := by
  rw [BuildM.generate, runs_get_bind_iff] at h
  split at h
  · exact absurd h not_runs_throw
  dsimp only at h
  split at h
  · obtain ⟨text, b₁, hResolve, hRest⟩ := runs_bind_iff.1 h
    obtain ⟨-, rfl⟩ := hResolve.ofExcept
    obtain ⟨done, b₂, hWrite, hPure⟩ := runs_bind_iff.1 hRest
    rw [(runs_pure_iff.1 hPure).2]
    exact ⟨text, done, hWrite⟩
  · obtain ⟨text, b₁, hText, hRest⟩ := runs_bind_iff.1 h
    obtain ⟨-, rfl⟩ := runs_pure_iff.1 hText
    obtain ⟨done, b₂, hWrite, hPure⟩ := runs_bind_iff.1 hRest
    rw [(runs_pure_iff.1 hPure).2]
    exact ⟨text, done, hWrite⟩

/-- A step that shows and writes a page writes no other. -/
theorem Runs.generate {view url : String} {data : Datum} {resolves : Bool} {page : SitePage}
    (hUrl : page.url? b.registry = some url) (h : Runs (generate view data url resolves) b u b') :
    Build.Wrote [page] b b' := by
  obtain ⟨text, done, hWrite⟩ := h.exists_write
  exact wrote_of_write hUrl hWrite

/-- What the steps of a loop write, one after the other. -/
theorem Runs.forM {α : Type} {f : α → BuildM PUnit} {as : List α} (pages : α → List SitePage)
    (step : ∀ a ∈ as, ∀ {b₁ b₂ : Build}, b.SameBasis b₁ → Runs (f a) b₁ u b₂ →
      Build.Wrote (pages a) b₁ b₂)
    (h : Runs (as.forM f) b u b') : Build.Wrote (as.flatMap pages) b b' := by
  induction as generalizing b with
  | nil =>
    obtain ⟨-, rfl⟩ := runs_pure_iff.1 h
    exact .refl _
  | cons a as ih =>
    obtain ⟨_, b₁, hHead, hTail⟩ := runs_bind_iff.1 h
    have hFirst := step a List.mem_cons_self (.refl b) hHead
    refine hFirst.trans (ih (fun c hc _ _ hBasis => ?_) hTail)
    exact step c (List.mem_cons_of_mem _ hc) (hFirst.basis.trans hBasis)

end BuildM

/-! ### The pages of a site -/

namespace Build

variable (b : Build)

/-- The pages of source files, if the settings ask for them. -/
def sourcePlan : List SitePage :=
  if b.config.writesSources then b.index.sourcePages.map .source else []

def globalsPlan : List SitePage := if b.index.globals.hasSymbols none then [.globals] else []

/-- Whether a longname has a page besides the front page. -/
def hasSymbolPage (longname : String) : Bool :=
  !BuildM.packageLead.toList.isPrefixOf longname.toList &&
    !(BuildM.pageCategories b longname).isEmpty

def symbolPlan : List SitePage := (b.index.outputLongnames.filter b.hasSymbolPage).map .symbol

def tutorialPlan (tree : TutorialTree) : List SitePage :=
  tree.tutorials.map fun t => .tutorial t.name

/-- All pages of a site, in the order in which they are made. -/
def plan (tree : TutorialTree) : List SitePage :=
  b.sourcePlan ++ b.globalsPlan ++ [.index] ++ b.symbolPlan ++ tutorialPlan tree ++ [.toc]

variable {b} {b' : Build}

theorem SameBasis.sourcePlan (h : b.SameBasis b') : b'.sourcePlan = b.sourcePlan := by
  simp only [Build.sourcePlan, h.index, h.config]

theorem SameBasis.globalsPlan (h : b.SameBasis b') : b'.globalsPlan = b.globalsPlan := by
  simp only [Build.globalsPlan, h.index]

theorem SameBasis.hasSymbolPage (h : b.SameBasis b') : b'.hasSymbolPage = b.hasSymbolPage := by
  funext longname
  simp only [Build.hasSymbolPage, BuildM.pageCategories, h.index]

theorem SameBasis.symbolPlan (h : b.SameBasis b') : b'.symbolPlan = b.symbolPlan := by
  simp only [Build.symbolPlan, h.index, h.hasSymbolPage]

theorem SameBasis.plan (h : b.SameBasis b') (tree : TutorialTree) :
    b'.plan tree = b.plan tree := by
  simp only [Build.plan, h.sourcePlan, h.globalsPlan, h.symbolPlan]

end Build

namespace BuildM

variable {b b' : Build} {u : Unit}

theorem Runs.makeDestination (h : Runs makeDestination b u b') : Build.Wrote [] b b' := by
  rw [BuildM.makeDestination, runs_get_bind_iff] at h
  obtain ⟨result, b₁, hFiles, hRest⟩ := runs_bind_iff.1 h
  obtain ⟨files, rfl⟩ := hFiles.onFiles
  cases result with
  | ok _ =>
    rw [(runs_pure_iff.1 hRest).2]
    exact .nothing .noted (List.prefix_refl _) rfl
  | error e => exact absurd hRest not_runs_throw

/-- What is not an end to the step is noted as a failure. -/
theorem Runs.noted {ends : Bool} {e : BuildError} {failure : BuildFailure}
    (h : Runs (if ends = true then do throw e; fail failure else fail failure) b u b') :
    b' = { b with failures := b.failures ++ [failure] } := by
  split at h
  · exact absurd h not_runs_throw_bind
  · exact runs_modify_iff.1 h

/-- A source file that cannot be read has no page, but the failure is noted. -/
theorem Runs.sourcePage {path shown : String} (h : Runs (sourcePage path shown) b u b') :
    Build.Wrote [.source shown] b b' := by
  rw [BuildM.sourcePage, runs_get_bind_iff] at h
  cases hUrl : b.registry.urlFor shown with
  | none =>
    rw [hUrl] at h
    exact absurd h not_runs_throw
  | some url =>
    rw [hUrl] at h
    dsimp only at h
    split at h
    · exact h.generate hUrl
    · have hNoted : ∃ failure, b' = { b with failures := b.failures ++ [failure] } := by
        split at h
        · exact ⟨_, h.noted⟩
        · exact ⟨_, h.noted⟩
      obtain ⟨failure, rfl⟩ := hNoted
      exact ⟨.noted, List.prefix_append _ _,
        by simp [SitePage.url?, hUrl], [], List.nil_sublist _, by simp, by simp⟩

/-- The page of a source file, by its path without the shared directories. -/
def shownPage (shown : Option String) : List SitePage :=
  (shown.filter (· != "")).toList.map .source

theorem flatMap_shownPage (ix : SymbolIndex) :
    (ix.shortPaths.flatMap fun e => shownPage e.2) = ix.sourcePages.map .source := by
  rw [SymbolIndex.sourcePages, Dict.vals]
  induction ix.shortPaths with
  | nil => rfl
  | cons e rest ih =>
    rw [List.flatMap_cons, ih]
    cases hShown : e.2.filter (· != "") <;> simp [shownPage, hShown]

theorem Runs.sourcePages (h : Runs sourcePages b u b') : Build.Wrote b.sourcePlan b b' := by
  rw [BuildM.sourcePages, runs_get_bind_iff] at h
  unfold Build.sourcePlan
  split at h
  next hOff =>
    rw [(runs_pure_iff.1 h).2, if_neg (by simpa using hOff)]
    exact .refl b
  next hOn =>
    rw [if_pos (by simpa using hOn), ← flatMap_shownPage]
    refine h.forM (fun e => shownPage e.2) fun e _ b₁ b₂ _ hStep => ?_
    obtain ⟨path, shown⟩ := e
    cases shown with
    | none =>
      rw [(runs_pure_iff.1 hStep).2]
      exact .refl b₁
    | some shown =>
      by_cases hEmpty : shown = ""
      · subst hEmpty
        rw [(runs_pure_iff.1 hStep).2]
        exact .refl b₁
      · have hShown : shownPage (some shown) = [.source shown] := by
          simp [shownPage, Option.filter, hEmpty]
        rw [hShown]
        have hPage : Runs (BuildM.sourcePage path shown) b₁ u b₂ := by simpa [hEmpty] using hStep
        exact hPage.sourcePage

theorem Runs.globalsPage (h : Runs globalsPage b u b') : Build.Wrote b.globalsPlan b b' := by
  rw [BuildM.globalsPage, runs_get_bind_iff] at h
  unfold Build.globalsPlan
  split at h
  next hNone =>
    rw [(runs_pure_iff.1 h).2, if_neg (by simpa using hNone)]
    exact .refl b
  next hSome =>
    rw [if_pos (by simpa using hSome)]
    exact h.generate rfl

theorem Runs.indexPage {readme : Option String} (h : Runs (indexPage readme) b u b') :
    Build.Wrote [.index] b b' := by
  rw [BuildM.indexPage, runs_get_bind_iff] at h
  exact h.generate rfl

/-- The page of a longname, if it has one. -/
theorem Runs.symbolPage {longname : String} (h : Runs (symbolPage longname) b u b') :
    Build.Wrote (if b.hasSymbolPage longname then [.symbol longname] else []) b b' := by
  rw [BuildM.symbolPage, runs_get_bind_iff] at h
  split at h
  next hPackage =>
    rw [(runs_pure_iff.1 h).2, if_neg (by simp [Build.hasSymbolPage, hPackage])]
    exact .refl b
  next hPackage =>
    have hLead := Bool.eq_false_iff.2 hPackage
    cases hCategories : pageCategories b longname with
    | nil =>
      rw [hCategories] at h
      rw [(runs_pure_iff.1 h).2, if_neg (by simp [Build.hasSymbolPage, hCategories])]
      exact .refl b
    | cons first rest =>
      rw [hCategories] at h
      rw [if_pos (by simp [Build.hasSymbolPage, hCategories, hLead])]
      cases hUrl : b.registry.urlFor longname with
      | none =>
        dsimp only at h
        rw [hUrl] at h
        exact absurd h not_runs_throw
      | some url =>
        dsimp only at h
        rw [hUrl] at h
        exact h.generate hUrl

theorem Runs.symbolPages (h : Runs symbolPages b u b') : Build.Wrote b.symbolPlan b b' := by
  rw [BuildM.symbolPages, runs_get_bind_iff] at h
  have hPlan : b.symbolPlan = b.index.outputLongnames.flatMap fun longname =>
      if b.hasSymbolPage longname then [.symbol longname] else [] := by
    rw [Build.symbolPlan]
    induction b.index.outputLongnames with
    | nil => rfl
    | cons longname rest ih =>
      by_cases hPage : b.hasSymbolPage longname <;> simp [hPage, ih]
  rw [hPlan]
  refine h.forM _ fun longname _ b₁ b₂ hBasis hStep => ?_
  rw [← hBasis.hasSymbolPage]
  exact hStep.symbolPage

theorem Runs.tutorialPage {tree : TutorialTree} {i : Nat} {t : Tutorial}
    (h : Runs (tutorialPage tree i t) b u b') : Build.Wrote [.tutorial t.name] b b' := by
  rw [BuildM.tutorialPage, runs_get_bind_iff] at h
  cases hUrl : b.registry.tutorialUrl t.name with
  | none =>
    rw [hUrl] at h
    exact absurd h not_runs_throw
  | some url =>
    rw [hUrl] at h
    exact h.generate hUrl

theorem Runs.tutorialPages {tree : TutorialTree} (h : Runs (tutorialPages tree) b u b') :
    Build.Wrote (Build.tutorialPlan tree) b b' := by
  have hPlan : Build.tutorialPlan tree = tree.flatten.flatMap fun i =>
      ((tree.tutorial? i).map fun t => .tutorial t.name).toList := by
    rw [Build.tutorialPlan, TutorialTree.tutorials]
    induction tree.flatten with
    | nil => rfl
    | cons i rest ih =>
      cases hTutorial : tree.tutorial? i <;> simp [hTutorial, ← ih]
  rw [hPlan]
  refine Runs.forM _ (fun i _ b₁ b₂ _ hStep => ?_) h
  cases hTutorial : tree.tutorial? i with
  | none =>
    rw [hTutorial] at hStep
    rw [(runs_pure_iff.1 hStep).2]
    exact .refl b₁
  | some t =>
    rw [hTutorial] at hStep
    exact hStep.tutorialPage

theorem Runs.tocFile (h : Runs tocFile b u b') : Build.Wrote [.toc] b b' := by
  rw [BuildM.tocFile, runs_get_bind_iff] at h
  exact h.generate rfl

/-- Static files are no pages. -/
theorem Runs.staticFiles (h : Runs staticFiles b u b') : Build.Wrote [] b b' := by
  rw [BuildM.staticFiles, runs_get_bind_iff] at h
  obtain ⟨result, b₁, hFiles, hRest⟩ := runs_bind_iff.1 h
  obtain ⟨files, rfl⟩ := hFiles.onFiles
  cases result with
  | error e => exact absurd hRest not_runs_throw
  | ok outcome =>
    dsimp only at hRest
    rw [runs_modify_bind_iff] at hRest
    have hNoted : Build.Wrote (outcome.failed.flatMap fun _ => []) _ b' :=
      Runs.forM _ (fun e _ b₁ b₂ _ hStep => by
        rw [runs_modify_iff.1 hStep]
        exact .nothing .noted (List.prefix_append _ _) rfl) hRest
    have hCopied : Build.Wrote [] b { b with files, copied := b.copied ++ outcome.copied } :=
      .nothing .noted (List.prefix_refl _) rfl
    have hAll := hCopied.trans hNoted
    rwa [List.nil_append, List.flatMap_eq_nil_iff.2 (fun _ _ => rfl)] at hAll

/-- A whole build goes through the pages of its plan. -/
theorem Runs.wholeSite {tree : TutorialTree} {readme : Option String}
    (h : Runs (wholeSite tree readme) b u b') : Build.Wrote (b.plan tree) b b' := by
  obtain ⟨_, b₁, hDestination, h⟩ := runs_bind_iff.1 h
  obtain ⟨_, b₂, hSources, h⟩ := runs_bind_iff.1 h
  obtain ⟨_, b₃, hGlobals, h⟩ := runs_bind_iff.1 h
  obtain ⟨_, b₄, hIndex, h⟩ := runs_bind_iff.1 h
  obtain ⟨_, b₅, hSymbols, h⟩ := runs_bind_iff.1 h
  obtain ⟨_, b₆, hTutorials, h⟩ := runs_bind_iff.1 h
  obtain ⟨_, b₇, hToc, hStatic⟩ := runs_bind_iff.1 h
  have h₁ := hDestination.makeDestination
  have h₂ := h₁.trans hSources.sourcePages
  have h₃ := h₂.trans hGlobals.globalsPage
  have h₄ := h₃.trans hIndex.indexPage
  have h₅ := h₄.trans hSymbols.symbolPages
  have h₆ := h₅.trans hTutorials.tutorialPages
  have h₇ := h₆.trans hToc.tocFile
  have h₈ := h₇.trans hStatic.staticFiles
  have hPlan : b.plan tree = [] ++ b₁.sourcePlan ++ b₂.globalsPlan ++ [.index] ++ b₄.symbolPlan ++
      Build.tutorialPlan tree ++ [.toc] ++ [] := by
    rw [Build.plan, h₁.basis.sourcePlan, h₂.basis.globalsPlan, h₄.basis.symbolPlan]
    simp
  rw [hPlan]
  exact h₈

end BuildM

end DocSite

import DocSite.Proofs.Build.Written

/-! Steps of a build that do not stumble over a link. A step ends with an error of links where
a page has no address, or where a view raises one of its own, and nowhere else; rendering,
files and references in a text have errors of their own. So each step is led back to the
addresses of the pages that it makes, and the whole build to those of its plan. -/

namespace DocSite

/-- The kinds of the errors that come from a name without an address and from an index that is
used too early or too late. -/
def linkErrorKinds : List String := ["LinkResolutionError", "IndexStateError"]

/-- An error that comes from a name without an address, or from an index that is not finished
or finished already. An address that cannot be encoded has an error of another kind. -/
def BuildError.IsLink : BuildError → Prop
  | .index (.address _) => False
  | .unfinished | .index _ | .link _ => True
  | .raised kind _ => kind ∈ linkErrorKinds
  | .text _ | .view _ | .reference _ => False

/-- The engine of a run ends with the error where it shows some view in a file, with the links of
a registry. -/
def BuildError.IsRaisedBy (tools : Tools) (r : LinkRegistry) (e : BuildError) : Prop :=
  ∃ files path data cause, tools.engine files r path data = .error cause ∧ e = .ofTemplate cause

/-- An error of links is raised by a view in a file if a page cannot be shown for it. -/
theorem isRaisedBy_of_render {tools : Tools} {template : Template} {t : FileTree}
    {r : LinkRegistry} {name : String} {data : Datum} {cause : TemplateError}
    (h : template.render tools.engine t r name data = .error cause)
    (hLink : (BuildError.ofTemplate cause).IsLink) :
    (BuildError.ofTemplate cause).IsRaisedBy tools r := by
  unfold Template.render at h
  split at h
  · cases h
  next view _ =>
    cases hView : View.render r data view with
    | ok _ =>
      rw [hView] at h
      cases h
    | error fault =>
      rw [hView] at h
      obtain rfl := Except.error.inj h
      exact hLink.elim
  · exact ⟨t, _, data, cause, h, rfl⟩

namespace BuildM

/-- A step, begun with a build, leaves what that is made from as it is, whether it comes to its
end or not, and ends with an error of links only if a view raises it. -/
structure Resolves {α : Type} (x : BuildM α) (b : Build) : Prop where
  basis : b.SameBasis (x.run.run b).2
  raised : ∀ e, (x.run.run b).1 = .error e → e.IsLink → e.IsRaisedBy b.tools b.registry

section Compose
variable {α β : Type} {b b' : Build}

theorem resolves_pure (a : α) (b : Build) : Resolves (pure a) b :=
  ⟨.refl b, fun _ h => nomatch h⟩

theorem Resolves.bind {x : BuildM α} {f : α → BuildM β} (h : Resolves x b)
    (hNext : ∀ a b', b.SameBasis b' → Resolves (f a) b') : Resolves (x >>= f) b := by
  obtain ⟨hBasis, hError⟩ := h
  constructor
  case basis =>
    rw [run_bind]
    rcases hRun : x.run.run b with ⟨e | a, b₁⟩ <;> rw [hRun] at hBasis
    · exact hBasis
    · exact hBasis.trans (hNext a b₁ hBasis).basis
  case raised =>
    rw [run_bind]
    rcases hRun : x.run.run b with ⟨e | a, b₁⟩ <;> rw [hRun] at hBasis hError
    · intro e' hSame
      obtain rfl := Except.error.inj hSame
      exact hError e rfl
    · rw [← hBasis.tools, ← hBasis.registry]
      exact (hNext a b₁ hBasis).raised

theorem resolves_get_bind {f : Build → BuildM β} (h : Resolves (f b) b) :
    Resolves (get >>= f) b := by
  constructor
  case basis =>
    rw [run_bind]
    exact h.basis
  case raised =>
    rw [run_bind]
    exact h.raised

theorem resolves_throw {e : BuildError} (h : e.IsLink → e.IsRaisedBy b.tools b.registry) :
    Resolves (throw e : BuildM α) b := by
  refine ⟨.refl b, fun e' hError => ?_⟩
  obtain rfl := Except.error.inj hError
  exact h

theorem resolves_modify {f : Build → Build} (h : b.SameBasis (f b)) : Resolves (modify f) b :=
  ⟨h, fun _ hError => nomatch hError⟩

theorem resolves_onFiles {ε : Type} (x : ExceptT ε (StateM FileTree) α) :
    Resolves (onFiles x) b :=
  ⟨.noted, fun _ hError => nomatch hError⟩

theorem resolves_ofExcept {x : Except BuildError α} (h : ∀ e, x = .error e → ¬ e.IsLink) :
    Resolves (MonadExcept.ofExcept x) b := by
  cases x with
  | ok a => exact resolves_pure a b
  | error e => exact resolves_throw fun hLink => absurd hLink (h e rfl)

/-- The steps of a loop, each begun with a build that is made from the same. -/
theorem resolves_forM {f : α → BuildM PUnit} {as : List α}
    (step : ∀ a ∈ as, ∀ b', b.SameBasis b' → Resolves (f a) b') : Resolves (as.forM f) b := by
  induction as generalizing b with
  | nil => exact resolves_pure _ b
  | cons a as ih =>
    refine (step a List.mem_cons_self b (.refl b)).bind fun _ b₁ hBasis =>
      ih fun c hc b' hNext => ?_
    exact step c (List.mem_cons_of_mem _ hc) b' (hBasis.trans hNext)

end Compose

/-! ### Steps -/

variable {b : Build}

theorem resolves_fail (failure : BuildFailure) : Resolves (fail failure) b :=
  resolves_modify .noted

theorem resolves_makeDestination : Resolves makeDestination b := by
  refine resolves_get_bind ((resolves_onFiles _).bind fun result b₁ _ => ?_)
  cases result with
  | ok _ => exact resolves_pure _ b₁
  | error e => exact resolves_throw False.elim

theorem resolves_write (path : Path) (text : String) : Resolves (write path text) b := by
  refine resolves_get_bind ((resolves_onFiles _).bind fun result b₁ _ => ?_)
  cases result with
  | ok _ =>
    refine (resolves_modify .noted).bind fun _ b₂ _ => resolves_pure _ b₂
  | error e =>
    dsimp only
    split
    · exact (resolves_throw False.elim).bind fun _ b₂ _ =>
        (resolves_fail _).bind fun _ b₃ _ => resolves_pure _ b₃
    · exact (resolves_fail _).bind fun _ b₂ _ => resolves_pure _ b₂

theorem resolves_generate (view : String) (data : Datum) (url : String) (resolves : Bool) :
    Resolves (generate view data url resolves) b := by
  refine resolves_get_bind ?_
  split
  next hRender => exact resolves_throw (isRaisedBy_of_render hRender)
  next page _ =>
    have hWrite : ∀ text b₁, Resolves (do
        let _ ← write (b.outputPath url) text) b₁ :=
      fun text b₁ => (resolves_write _ text).bind fun _ b₂ _ => resolves_pure _ b₂
    dsimp only
    split
    · refine (resolves_ofExcept fun e hError => ?_).bind fun text b₁ _ => hWrite text b₁
      cases hResolve : b.registry.resolveLinks page with
      | ok _ =>
        rw [hResolve] at hError
        cases hError
      | error cause =>
        rw [hResolve] at hError
        obtain rfl : BuildError.reference cause = e := Except.error.inj hError
        exact id
    · exact (resolves_pure page b).bind fun text b₁ _ => hWrite text b₁

/-- A source page is made if it has an address; a file that cannot be read has no part in it. -/
theorem resolves_sourcePage {path shown : String} (h : (b.registry.urlFor shown).isSome) :
    Resolves (sourcePage path shown) b := by
  obtain ⟨url, hUrl⟩ := Option.isSome_iff_exists.1 h
  refine resolves_get_bind ?_
  rw [hUrl]
  dsimp only
  split
  · exact resolves_generate _ _ _ _
  next e _ =>
    have hNoted : ∀ (ends : Bool) (failure : BuildFailure), Resolves
        (if ends = true then do throw (.text e); fail failure else fail failure) b := by
      intro ends failure
      split
      · exact (resolves_throw False.elim).bind fun _ _ _ => resolves_fail _
      · exact resolves_fail _
    exact hNoted _ _

theorem resolves_sourcePages
    (h : ∀ p ∈ b.sourcePlan, (p.url? b.registry).isSome) : Resolves sourcePages b := by
  refine resolves_get_bind ?_
  split
  next => exact resolves_pure _ b
  next hOn =>
    rw [Build.sourcePlan, if_pos (by simpa using hOn), ← flatMap_shownPage] at h
    refine resolves_forM fun entry hEntry b' hBasis => ?_
    obtain ⟨path, shown⟩ := entry
    cases shown with
    | none => exact resolves_pure _ b'
    | some shown =>
      by_cases hEmpty : shown = ""
      · subst hEmpty
        exact resolves_pure _ b'
      · have hShown : .source shown ∈ b.index.shortPaths.flatMap fun e => shownPage e.2 :=
          List.mem_flatMap.2 ⟨_, hEntry, by simp [shownPage, Option.filter, hEmpty]⟩
        have hPage : Resolves (sourcePage path shown) b' :=
          resolves_sourcePage (by rw [hBasis.registry]; exact h _ hShown)
        simpa [hEmpty] using hPage

theorem resolves_globalsPage : Resolves globalsPage b := by
  refine resolves_get_bind ?_
  split
  · exact resolves_pure _ b
  · exact resolves_generate _ _ _ _

theorem resolves_indexPage (readme : Option String) : Resolves (indexPage readme) b :=
  resolves_get_bind (resolves_generate _ _ _ _)

theorem resolves_symbolPage {longname : String}
    (h : b.hasSymbolPage longname = true → (b.registry.urlFor longname).isSome) :
    Resolves (symbolPage longname) b := by
  refine resolves_get_bind ?_
  split
  next => exact resolves_pure _ b
  next hPackage =>
    cases hCategories : pageCategories b longname with
    | nil => exact resolves_pure _ b
    | cons first rest =>
      obtain ⟨url, hUrl⟩ := Option.isSome_iff_exists.1
        (h (by simp [Build.hasSymbolPage, hCategories, Bool.eq_false_iff.2 hPackage]))
      dsimp only
      rw [hUrl]
      exact resolves_generate _ _ _ _

theorem resolves_symbolPages
    (h : ∀ p ∈ b.symbolPlan, (p.url? b.registry).isSome) : Resolves symbolPages b := by
  refine resolves_get_bind (resolves_forM fun longname hMem b' hBasis => ?_)
  refine resolves_symbolPage fun hPage => ?_
  rw [hBasis.hasSymbolPage] at hPage
  rw [hBasis.registry]
  exact h (.symbol longname) (List.mem_map_of_mem (List.mem_filter.2 ⟨hMem, hPage⟩))

theorem resolves_tutorialPage {tree : TutorialTree} {i : Nat} {t : Tutorial}
    (h : (b.registry.tutorialUrl t.name).isSome) : Resolves (tutorialPage tree i t) b := by
  obtain ⟨url, hUrl⟩ := Option.isSome_iff_exists.1 h
  refine resolves_get_bind ?_
  rw [hUrl]
  exact resolves_generate _ _ _ _

theorem resolves_tutorialPages {tree : TutorialTree}
    (h : ∀ p ∈ Build.tutorialPlan tree, (p.url? b.registry).isSome) :
    Resolves (tutorialPages tree) b := by
  refine resolves_forM fun i hi b' hBasis => ?_
  cases hTutorial : tree.tutorial? i with
  | none => exact resolves_pure _ b'
  | some t =>
    have hMem : t ∈ tree.tutorials := List.mem_filterMap.2 ⟨i, hi, hTutorial⟩
    exact resolves_tutorialPage
      (by rw [hBasis.registry]; exact h (.tutorial t.name) (List.mem_map_of_mem hMem))

theorem resolves_tocFile : Resolves tocFile b := resolves_get_bind (resolves_generate _ _ _ _)

theorem resolves_staticFiles : Resolves staticFiles b := by
  refine resolves_get_bind ((resolves_onFiles _).bind fun result b₁ _ => ?_)
  cases result with
  | error e => exact resolves_throw False.elim
  | ok outcome =>
    refine (resolves_modify .noted).bind fun _ b₂ _ => ?_
    exact resolves_forM fun _ _ _ _ => resolves_fail _

/-- If all pages of the plan have addresses, no step of the build ends with an error of links,
except for those that views raise. -/
theorem resolves_wholeSite {tree : TutorialTree} {readme : Option String}
    (h : ∀ p ∈ b.plan tree, (p.url? b.registry).isSome) : Resolves (wholeSite tree readme) b := by
  have hSources : ∀ p ∈ b.sourcePlan, (p.url? b.registry).isSome :=
    fun p hp => h p (by simp [Build.plan, hp])
  have hSymbols : ∀ p ∈ b.symbolPlan, (p.url? b.registry).isSome :=
    fun p hp => h p (by simp [Build.plan, hp])
  have hTutorials : ∀ p ∈ Build.tutorialPlan tree, (p.url? b.registry).isSome :=
    fun p hp => h p (by simp [Build.plan, hp])
  refine resolves_makeDestination.bind fun _ b₁ h₁ => ?_
  refine (resolves_sourcePages ?_).bind fun _ b₂ h₂ => ?_
  · rwa [h₁.sourcePlan, h₁.registry]
  refine resolves_globalsPage.bind fun _ b₃ h₃ => ?_
  refine (resolves_indexPage readme).bind fun _ b₄ h₄ => ?_
  have hBasis₄ := ((h₁.trans h₂).trans h₃).trans h₄
  refine (resolves_symbolPages ?_).bind fun _ b₅ h₅ => ?_
  · rwa [hBasis₄.symbolPlan, hBasis₄.registry]
  refine (resolves_tutorialPages ?_).bind fun _ b₆ _ => ?_
  · rwa [(hBasis₄.trans h₅).registry]
  exact resolves_tocFile.bind fun _ _ _ => resolves_staticFiles

end BuildM

end DocSite

import DocSite.Proofs.Build.Runs

/-! How a build begins. Its index is finished and its template is read before the first step; a
template in a directory takes the place of the standard one and changes nothing else. -/

namespace DocSite

namespace SiteRequest

variable {q : SiteRequest} {t : FileTree} {b : Build}

/-- A build begins once the index is finished, its addresses are encoded and the template is
read, in this order. -/
theorem prepare_eq (q : SiteRequest) (t : FileTree) : q.prepare t =
    match q.index with
    | .error e => .error (.index e)
    | .ok ix => match ix.registry.checkAddresses with
      | .error cause => .error (.index (.address cause))
      | .ok _ => match q.templateIn t with
        | .error cause => .error (.file cause)
        | .ok template => Build.start template ix q.destination q.config q.base t q.tools := by
  unfold prepare
  cases q.index with
  | error e => rfl
  | ok ix =>
    dsimp only
    change ((do
      ix.registry.checkAddresses.mapError fun cause => BuildError.index (.address cause)
      let template ← (q.templateIn t).mapError .file
      Build.start template ix q.destination q.config q.base t q.tools) :
        Except BuildError Build) = _
    cases ix.registry.checkAddresses with
    | error cause => rfl
    | ok _ => cases q.templateIn t <;> rfl

/-- A build begins with the finished index, in its destination, and nothing is done yet. -/
theorem exists_template_of_prepare (h : q.prepare t = .ok b) : ∃ template,
    q.index = .ok b.index ∧ b = { template, index := b.index, destination := q.destination,
                                  config := q.config, base := q.base, tools := q.tools,
                                  files := t } := by
  rw [prepare_eq] at h
  split at h
  · cases h
  next ix hIndex =>
    split at h
    · cases h
    · split at h
      · cases h
      next template _ =>
        unfold Build.start at h
        split at h
        · obtain rfl := Except.ok.inj h
          exact ⟨template, hIndex, rfl⟩
        · cases h

theorem eq_of_prepare (h : q.prepare t = .ok b) :
    b.written = [] ∧ b.failures = [] ∧ b.config = q.config ∧ q.index = .ok b.index := by
  obtain ⟨template, hIndex, hStart⟩ := exists_template_of_prepare h
  refine ⟨?_, ?_, ?_, hIndex⟩ <;> rw [hStart]

/-- A build that comes to its end is a run of all its steps. -/
theorem exists_prepare_of_build (h : (q.build t).1 = .ok b) : ∃ b₀, q.prepare t = .ok b₀ ∧
    BuildM.Runs (BuildM.wholeSite q.tutorials q.readme) b₀ () b := by
  unfold build at h
  cases hPrepare : q.prepare t with
  | error e =>
    rw [hPrepare] at h
    exact absurd h (by simp)
  | ok b₀ =>
    rw [hPrepare] at h
    refine ⟨b₀, rfl, ?_⟩
    rcases hRun : (BuildM.wholeSite q.tutorials q.readme).run.run b₀ with ⟨e | _, b'⟩
    · simp [hRun, Except.map] at h
    · simp only [hRun, Except.map] at h
      obtain rfl := Except.ok.inj h
      exact hRun

/-- A build that comes to its end begins with the finished index and nothing written. -/
theorem runs_of_build (h : (q.build t).1 = .ok b) :
    ∃ b₀ : Build, b₀.written = [] ∧ b₀.failures = [] ∧ q.index = .ok b₀.index ∧
      BuildM.Runs (BuildM.wholeSite q.tutorials q.readme) b₀ () b := by
  obtain ⟨b₀, hPrepare, hRun⟩ := exists_prepare_of_build h
  obtain ⟨hWritten, hFailures, -, hIndex⟩ := eq_of_prepare hPrepare
  exact ⟨b₀, hWritten, hFailures, hIndex, hRun⟩

/-! ### Templates in directories -/

/-- The template is looked for last, so a build with another one begins with the same. -/
theorem prepare_of_templateIn {template : Template} (h : q.templateIn t = .ok template) :
    q.prepare t = (({ q with template := none } : SiteRequest).prepare t).map
      fun b => { b with template } := by
  have hIndex : ({ q with template := none } : SiteRequest).index = q.index := rfl
  have hTemplate : ({ q with template := none } : SiteRequest).templateIn t = .ok .standard := rfl
  rw [prepare_eq, prepare_eq, h, hIndex, hTemplate]
  cases q.index with
  | error e => rfl
  | ok ix =>
    dsimp only
    cases ix.registry.checkAddresses with
    | error cause => rfl
    | ok _ =>
      simp only [Build.start]
      split <;> rfl

/-- A project with a source file and with a template, whose views are plain texts. -/
def projectFiles : FileTree where
  entries := [(["a.js"], .file []), (["template"], .directory),
      (["template", "views"], .directory)] ++
    View.all.map fun v => (["template", "views", v.label ++ ".html"],
      .file (Text.encodeUtf8 v.label.toList))
  current := []

/-- The template of the project. -/
def projectTemplate : Template where
  views := View.all.map fun v =>
    (v.label, .file ⟨.here, ["template", "views", v.label ++ ".html"]⟩)
  staticFiles := ⟨.here, ["template", "static"]⟩

theorem templateIn_projectFiles (h : q.template = some ⟨.here, ["template"]⟩) :
    q.templateIn projectFiles = .ok projectTemplate := by
  have hNames : (projectFiles.namesAt ["template", "views"]).mergeSort (· ≤ ·) =
      projectFiles.namesAt ["template", "views"] :=
    List.mergeSort_of_pairwise (by decide +kernel)
  have hFiles : Template.filesIn projectFiles ⟨.here, ["template", "views"]⟩ =
      .ok (View.all.map fun v => ⟨.here, ["template", "views", v.label ++ ".html"]⟩) := by
    have hIs : projectFiles.isDirectory ⟨.here, ["template", "views"]⟩ = .ok true := rfl
    have hLocate : projectFiles.locate ⟨.here, ["template", "views"]⟩ =
        .ok (["template", "views"], some .directory) := rfl
    simp only [Template.filesIn, hIs, hLocate, hNames]
    rfl
  have hViews : Path.child ⟨.here, ["template"]⟩ Template.viewsName =
      ⟨.here, ["template", "views"]⟩ := rfl
  simp only [templateIn, h, Template.ofDirectory, hViews, hFiles]
  rfl

end SiteRequest

end DocSite

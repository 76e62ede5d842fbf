import DocSite.Build.Site
import DocSite.Proofs.Files.Keeping

/-! Steps of a build that come to their end. A run leads from one build to another with a
value; a run of composed steps is taken apart into the runs of the steps. What a step
may change are the files, the pages written, the files copied and the failures. -/

namespace DocSite

namespace BuildM

/-- Whether a step, begun with a build, ends with a value and another build. -/
def Runs {α : Type} (x : BuildM α) (b : Build) (a : α) (b' : Build) : Prop :=
  x.run.run b = (.ok a, b')

section Runs
variable {α β : Type} {b b' : Build}

theorem runs_bind_iff {x : BuildM α} {f : α → BuildM β} {c : β} :
    Runs (x >>= f) b c b' ↔ ∃ a b₁, Runs x b a b₁ ∧ Runs (f a) b₁ c b' := by
  unfold Runs
  rw [run_bind]
  rcases x.run.run b with ⟨e | a, b₁⟩
  · constructor
    · intro h
      cases h
    · rintro ⟨_, _, h, -⟩
      cases h
  · constructor
    · exact fun h => ⟨a, b₁, rfl, h⟩
    · rintro ⟨_, _, h, h'⟩
      cases h
      exact h'

@[simp] theorem runs_pure_iff {a c : α} : Runs (pure a) b c b' ↔ c = a ∧ b' = b := by
  constructor
  · intro h
    cases h
    exact ⟨rfl, rfl⟩
  · rintro ⟨rfl, rfl⟩
    rfl

theorem Runs.run_bind {x : BuildM α} {a : α} (h : Runs x b a b') (f : α → BuildM β) :
    (x >>= f).run.run b = (f a).run.run b' := by
  rw [DocSite.run_bind, show x.run.run b = (.ok a, b') from h]

theorem runs_get_bind_iff {f : Build → BuildM β} {c : β} :
    Runs (get >>= f) b c b' ↔ Runs (f b) b c b' := by
  rw [Runs, Runs, run_get_bind]

theorem runs_modify_bind_iff {f : Build → Build} {g : Unit → BuildM β} {c : β} :
    Runs (modify f >>= g) b c b' ↔ Runs (g ()) (f b) c b' := by
  unfold Runs
  rw [run_bind]
  rfl

@[simp] theorem runs_modify_iff {f : Build → Build} {u : Unit} :
    Runs (modify f) b u b' ↔ b' = f b := by
  constructor
  · intro h
    cases h
    rfl
  · rintro rfl
    rfl

theorem not_runs_throw {e : BuildError} {a : α} : ¬ Runs (throw e) b a b' := by
  intro h
  cases h

theorem not_runs_throw_bind {e : BuildError} {f : α → BuildM β} {c : β} :
    ¬ Runs (throw e >>= f) b c b' := by
  intro h
  obtain ⟨_, _, hThrow, -⟩ := runs_bind_iff.1 h
  exact not_runs_throw hThrow

theorem run_onFiles {ε : Type} (x : ExceptT ε (StateM FileTree) α) (b : Build) :
    (onFiles x).run.run b = (.ok (x.run.run b.files).1, { b with files := (x.run.run b.files).2 }) :=
  rfl

/-- An operation on the files changes nothing else. -/
theorem Runs.onFiles {ε : Type} {x : ExceptT ε (StateM FileTree) α} {result : Except ε α}
    (h : Runs (onFiles x) b result b') : ∃ files, b' = { b with files } := by
  cases h
  exact ⟨_, rfl⟩

theorem Runs.ofExcept {x : Except BuildError α} {a : α}
    (h : Runs (MonadExcept.ofExcept x) b a b') : x = .ok a ∧ b' = b := by
  cases x with
  | error e => cases h
  | ok c =>
    cases h
    exact ⟨rfl, rfl⟩

end Runs

end BuildM

/-! ### Pages -/

/-- A page of a site. -/
inductive SitePage
  | source (shown : String)
  | globals
  | index
  | symbol (longname : String)
  | tutorial (name : String)
  | toc
deriving DecidableEq, Repr

/-- The address of a page, if one is registered. -/
def SitePage.url? (r : LinkRegistry) : SitePage → Option String
  | .source shown => r.urlFor shown
  | .globals => some LinkRegistry.globalUrl
  | .index => some LinkRegistry.indexUrl
  | .symbol longname => r.urlFor longname
  | .tutorial name => r.tutorialUrl name
  | .toc => some BuildM.tocUrl

namespace Build

/-- The file that a page is written to. -/
def pathOf (b : Build) (p : SitePage) : Path := b.outputPath ((p.url? b.registry).getD "")

/-- What a build is made from stays. -/
structure SameBasis (b b' : Build) : Prop where
  template : b'.template = b.template
  index : b'.index = b.index
  destination : b'.destination = b.destination
  config : b'.config = b.config
  base : b'.base = b.base
  tools : b'.tools = b.tools

/-- A part of a build was to write some pages, which all have addresses. Those of them that were
written are noted in their order, and if nothing has failed they are all of them. -/
structure Wrote (pages : List SitePage) (b b' : Build) : Prop where
  basis : b.SameBasis b'
  failures : b.failures <+: b'.failures
  linked : ∀ p ∈ pages, (p.url? b.registry).isSome
  written : ∃ done, done.Sublist pages ∧ b'.written = b.written ++ done.map b.pathOf ∧
    (b'.failures = b.failures → done = pages)

variable {b b' b'' : Build} {pages more : List SitePage}

theorem SameBasis.refl (b : Build) : b.SameBasis b := ⟨rfl, rfl, rfl, rfl, rfl, rfl⟩

/-- What a step may change is not what a build is made from. -/
theorem SameBasis.noted {files : FileTree} {written copied : List Path}
    {failures : List BuildFailure} : b.SameBasis { b with files, written, copied, failures } :=
  ⟨rfl, rfl, rfl, rfl, rfl, rfl⟩

theorem SameBasis.trans (h : b.SameBasis b') (h' : b'.SameBasis b'') : b.SameBasis b'' :=
  ⟨h'.template.trans h.template, h'.index.trans h.index, h'.destination.trans h.destination,
    h'.config.trans h.config, h'.base.trans h.base, h'.tools.trans h.tools⟩

theorem SameBasis.registry (h : b.SameBasis b') : b'.registry = b.registry :=
  congrArg SymbolIndex.registry h.index

theorem SameBasis.pathOf (h : b.SameBasis b') : b'.pathOf = b.pathOf := by
  funext p
  simp only [Build.pathOf, Build.outputPath, h.registry, h.destination]

/-- Nothing was to be written, and nothing was. -/
theorem Wrote.nothing (h : b.SameBasis b') (hFailures : b.failures <+: b'.failures)
    (hWritten : b'.written = b.written) : Wrote [] b b' where
  basis := h
  failures := hFailures
  linked := by simp
  written := ⟨[], .refl _, by simpa using hWritten, fun _ => rfl⟩

theorem Wrote.refl (b : Build) : Wrote [] b b := .nothing (.refl b) (List.prefix_refl _) rfl

/-- Parts of a build that follow one another write their pages one after the other. -/
theorem Wrote.trans (h : Wrote pages b b') (h' : Wrote more b' b'') :
    Wrote (pages ++ more) b b'' := by
  obtain ⟨done, hDone, hWritten, hAll⟩ := h.written
  obtain ⟨done', hDone', hWritten', hAll'⟩ := h'.written
  constructor
  case basis => exact h.basis.trans h'.basis
  case failures => exact h.failures.trans h'.failures
  case linked =>
    intro p hp
    rcases List.mem_append.1 hp with hp | hp
    · exact h.linked p hp
    · exact h.basis.registry ▸ h'.linked p hp
  case written =>
    refine ⟨done ++ done', hDone.append hDone', ?_, ?_⟩
    · rw [hWritten', hWritten, h.basis.pathOf, List.map_append, List.append_assoc]
    · intro hFailures
      -- failures are only added, so none was added in either part
      have hLength := congrArg List.length hFailures
      have hFirst := h.failures.length_le
      have hSecond := h'.failures.length_le
      have hSame := h.failures.eq_of_length (by omega)
      have hSame' := h'.failures.eq_of_length (by omega)
      rw [hAll hSame.symm, hAll' hSame'.symm]

end Build

end DocSite

import DocSite.Proofs.Build.Runs
import DocSite.Proofs.Files.Transfers

/-! What all steps of a build have in common, however they end. What the build is made from
stays, and so do the directories; and no step heeds the failures that were noted before it. -/

namespace DocSite

namespace Build

/-- The build with failures that were noted before all of its own. -/
def afterFailures (earlier : List BuildFailure) (b : Build) : Build :=
  { b with failures := earlier ++ b.failures }

/-- A build goes on from another: it is made from the same, and directories stay. -/
structure GoesOn (b b' : Build) : Prop where
  basis : b.SameBasis b'
  directories : b.files.KeepsDirectories b'.files

instance : Std.Refl GoesOn := ⟨fun b => ⟨.refl b, refl_of FileTree.KeepsDirectories _⟩⟩

theorem GoesOn.noted {b : Build} {written copied : List Path} {failures : List BuildFailure} :
    b.GoesOn { b with written, copied, failures } :=
  ⟨.noted, refl_of FileTree.KeepsDirectories _⟩

instance : IsTrans Build GoesOn :=
  ⟨fun _ _ _ h h' => ⟨h.basis.trans h'.basis, trans_of _ h.directories h'.directories⟩⟩

end Build

/-! ### Static files -/

namespace Transfer

open FileTree (KeepsDirectories)

theorem keeps_addTree (source destination : Path) (filter : FileFilter) (outcome : Transfer) :
    Keeps KeepsDirectories (addTree source destination filter outcome) :=
  keeps_addTreeBy (keeps_place (fun p => (FileM.keeps_makeDirectory p).mono
    fun _ _ => FileTree.AddsDirectories.keepsDirectories) FileM.keeps_write) _ _ _ _

theorem keeps_staticFiles (templateFiles destination : Path) (s : StaticFiles) (base : Path) :
    Keeps KeepsDirectories (staticFiles templateFiles destination s base) := by
  refine (keeps_addTree _ _ _ _).bind fun outcome => ?_
  split
  · exact .pure outcome
  · exact (FileM.keeps_reading _).bind fun filter =>
      .foldlM (fun outcome path => keeps_addTree _ _ _ _) _ outcome

end Transfer

/-! ### Steps -/

namespace BuildM

/-- A step goes on from the build that it is begun with, and does not heed earlier failures. -/
structure Regular {α : Type} (x : BuildM α) : Prop where
  keeps : Keeps Build.GoesOn x
  commutes : ∀ earlier, Commutes (Build.afterFailures earlier) x

section Compose
variable {α β : Type}

theorem regular_pure (a : α) : Regular (pure a) := ⟨.pure a, fun _ => .pure a⟩

theorem regular_throw (e : BuildError) : Regular (throw e : BuildM α) :=
  ⟨.throw e, fun _ => .throw e⟩

theorem regular_ofExcept (x : Except BuildError α) : Regular (MonadExcept.ofExcept x) :=
  ⟨.ofExcept x, fun _ => .ofExcept x⟩

theorem Regular.bind {x : BuildM α} {f : α → BuildM β} (h : Regular x)
    (hNext : ∀ a, Regular (f a)) : Regular (x >>= f) :=
  ⟨h.keeps.bind fun a => (hNext a).keeps,
    fun earlier => (h.commutes earlier).bind fun a => (hNext a).commutes earlier⟩

theorem regular_get_bind {f : Build → BuildM β}
    (hSame : ∀ earlier b, f (b.afterFailures earlier) = f b) (hNext : ∀ b, Regular (f b)) :
    Regular (get >>= f) :=
  ⟨Keeps.get.bind fun b => (hNext b).keeps,
    fun earlier => .get_bind (hSame earlier) fun b => (hNext b).commutes earlier⟩

theorem regular_forM {f : α → BuildM PUnit} (h : ∀ a, Regular (f a)) (as : List α) :
    Regular (as.forM f) :=
  ⟨.forM (fun a => (h a).keeps) as, fun earlier => .forM (fun a => (h a).commutes earlier) as⟩

theorem regular_onFiles {ε : Type} {x : ExceptT ε (StateM FileTree) α}
    (h : Keeps FileTree.KeepsDirectories x) : Regular (onFiles x) :=
  ⟨fun b => ⟨.noted, h b.files⟩, fun _ _ => rfl⟩

theorem regular_fail (failure : BuildFailure) : Regular (fail failure) :=
  ⟨.modify fun b => .noted, fun earlier => .modify fun b => by
    simp only [Build.afterFailures, List.append_assoc]⟩

end Compose

theorem regular_makeDestination : Regular makeDestination := by
  refine regular_get_bind (fun _ _ => rfl) fun b => ?_
  refine (regular_onFiles ((FileM.keeps_makeDirectories _).mono
    fun _ _ => FileTree.AddsDirectories.keepsDirectories)).bind fun result => ?_
  cases result with
  | ok _ => exact regular_pure _
  | error e => exact regular_throw _

theorem keeps_writeText (codecs : Text.Codecs) (encoding : String) (p : Path) (text : List Char) :
    Keeps FileTree.KeepsDirectories (TextM.write codecs encoding p text) := by
  intro t
  have hMade := (FileTree.addsDirectories_withParent t p).keepsDirectories
  have hWriting := TextM.writing t codecs encoding p text
  generalize (TextM.write codecs encoding p text).run.run t = ending at hWriting ⊢
  cases hWriting with
  | written hPlace => exact FileTree.keepsDirectories_withParent hPlace _
  | refused => exact hMade
  | brokenOff hPlace => exact FileTree.keepsDirectories_withParent hPlace _
  | noPath => exact hMade
  | noBytes hPlace => exact FileTree.keepsDirectories_withParent hPlace _

theorem regular_write (path : Path) (text : String) : Regular (write path text) := by
  refine regular_get_bind (fun _ _ => rfl) fun b => ?_
  refine (regular_onFiles (keeps_writeText _ _ _ _)).bind fun result => ?_
  have hFail : ∀ failure : BuildFailure, Regular (do fail failure; return false : BuildM Bool) :=
    fun failure => (regular_fail failure).bind fun _ => regular_pure false
  cases result with
  | ok _ =>
    exact Regular.bind ⟨.modify fun _ => .noted, fun _ => .modify fun _ => rfl⟩ fun _ =>
      regular_pure true
  | error e =>
    dsimp only
    split
    · exact (regular_throw _).bind fun _ => hFail _
    · exact hFail _

theorem regular_generate (view : String) (data : Datum) (url : String) (resolves : Bool) :
    Regular (generate view data url resolves) := by
  refine regular_get_bind (fun _ _ => rfl) fun b => ?_
  split
  · exact regular_throw _
  next page _ =>
    have hWrite : ∀ text, Regular (do
        let _ ← write (b.outputPath url) text) :=
      fun text => (regular_write _ text).bind fun _ => regular_pure _
    dsimp only
    split
    · exact (regular_ofExcept _).bind hWrite
    · exact (regular_pure page).bind hWrite

theorem regular_sourcePage (path shown : String) : Regular (sourcePage path shown) := by
  refine regular_get_bind (fun _ _ => rfl) fun b => ?_
  split
  · dsimp only
    split
    · exact regular_generate _ _ _ _
    next e _ =>
      have hNoted : ∀ (ends : Bool) (failure : BuildFailure), Regular
          (if ends = true then do throw (.text e); fail failure else fail failure) := by
        intro ends failure
        split
        · exact (regular_throw _).bind fun _ => regular_fail failure
        · exact regular_fail failure
      exact hNoted _ _
  · exact regular_throw _

theorem regular_sourcePages : Regular sourcePages := by
  refine regular_get_bind (fun _ _ => rfl) fun b => ?_
  split
  · exact regular_pure _
  · refine regular_forM (fun entry => ?_) _
    obtain ⟨path, shown?⟩ := entry
    dsimp only
    split
    · exact regular_pure _
    · exact regular_pure _
    · exact regular_sourcePage path _

theorem regular_globalsPage : Regular globalsPage := by
  refine regular_get_bind (fun _ _ => rfl) fun b => ?_
  split
  · exact regular_pure _
  · exact regular_generate _ _ _ _

theorem regular_indexPage (readme : Option String) : Regular (indexPage readme) :=
  regular_get_bind (fun _ _ => rfl) fun _ => regular_generate _ _ _ _

theorem regular_symbolPage (longname : String) : Regular (symbolPage longname) := by
  refine regular_get_bind (fun _ _ => rfl) fun b => ?_
  split
  · exact regular_pure _
  · split
    · exact regular_pure _
    · dsimp only
      split
      · exact regular_generate _ _ _ _
      · exact regular_throw _

theorem regular_symbolPages : Regular symbolPages :=
  regular_get_bind (fun _ _ => rfl) fun _ => regular_forM regular_symbolPage _

theorem regular_tutorialPage (tree : TutorialTree) (i : Nat) (t : Tutorial) :
    Regular (tutorialPage tree i t) := by
  refine regular_get_bind (fun _ _ => rfl) fun b => ?_
  split
  · exact regular_generate _ _ _ _
  · exact regular_throw _

theorem regular_tocFile : Regular tocFile :=
  regular_get_bind (fun _ _ => rfl) fun _ => regular_generate _ _ _ _

theorem regular_staticFiles : Regular staticFiles := by
  refine regular_get_bind (fun _ _ => rfl) fun b => ?_
  refine (regular_onFiles (Transfer.keeps_staticFiles _ _ _ _)).bind fun result => ?_
  cases result with
  | error e => exact regular_throw _
  | ok outcome =>
    exact Regular.bind ⟨.modify fun _ => .noted, fun _ => .modify fun _ => rfl⟩ fun _ =>
      regular_forM (fun _ => regular_fail _) _

end BuildM

end DocSite

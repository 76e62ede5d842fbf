import DocSite.FileTree.Transfer
import DocSite.Proofs.Files.Scanning

/-! Copying files one after the other. The operation that copies a single file is left open: it is
any that the file system may refuse and that leaves names of files only, so what is shown of it
holds whichever copies fail. A file that is found and passes the filter has one ending, and a
report has each ending in one of its two lists. -/

namespace DocSite

open FileTree (hasNull KeepsNames)

/-! ### Filters -/

section Except
variable {α β ε : Type} {f : α → Except ε β} {as : List α}

theorem mapM_eq_ok {g : α → β} (h : ∀ a ∈ as, f a = .ok (g a)) :
    as.mapM f = .ok (as.map g) := by
  induction as with
  | nil => rfl
  | cons a as ih =>
    obtain ⟨hFirst, hRest⟩ := List.forall_mem_cons.1 h
    rw [List.mapM_cons, hFirst, ih hRest]
    rfl

theorem exists_mapM_eq_error {a : α} {e : ε} (ha : a ∈ as) (h : f a = .error e) :
    ∃ e', as.mapM f = .error e' := by
  induction as with
  | nil => cases ha
  | cons b as ih =>
    rw [List.mapM_cons]
    cases hFirst : f b with
    | error e' => exact ⟨e', rfl⟩
    | ok value =>
      have hNe : a ≠ b := by
        rintro rfl
        rw [h] at hFirst
        cases hFirst
      obtain ⟨e', hRest⟩ := ih ((List.mem_cons.1 ha).resolve_left hNe)
      exact ⟨e', by rw [hRest]; rfl⟩

end Except

namespace FileFilter

/-- The filter of settings, whose excluded places are those that the paths name. -/
def ofSettings (t : FileTree) (base : Path) (s : StaticFiles) : FileFilter where
  include? := s.include?.map PathPattern.pattern
  exclude? := s.exclude?.map PathPattern.pattern
  excluded := s.excluded.map fun item => t.resolve (base.join (.ofString item))

variable {t t' : FileTree} {base : Path} {s : StaticFiles}

theorem resolve_congr (h : t'.current = t.current) (p : Path) : t'.resolve p = t.resolve p := by
  rw [FileTree.resolve, FileTree.resolve, FileTree.startOf_eq h]

theorem ofSettings_congr (h : t'.current = t.current) (base : Path) (s : StaticFiles) :
    ofSettings t' base s = ofSettings t base s := by
  simp only [ofSettings, resolve_congr h]

theorem ofConfig_eq_ok (h : ∀ item ∈ s.excluded, hasNull (base.join (.ofString item)) = false) :
    ofConfig t base s = .ok (ofSettings t base s) := by
  have hPlaces : s.excluded.mapM (fun item => t.resolve? (base.join (.ofString item))) =
      .ok (s.excluded.map fun item => t.resolve (base.join (.ofString item))) := by
    refine mapM_eq_ok fun item hItem => ?_
    rw [FileTree.resolve?, h item hItem, if_neg Bool.false_ne_true]
  rw [ofConfig, hPlaces]
  rfl

/-- An excluded path that is none is an error. -/
theorem exists_ofConfig_eq_error {item : String} (hItem : item ∈ s.excluded)
    (hNull : hasNull (base.join (.ofString item)) = true) :
    ∃ e, ofConfig t base s = .error e := by
  have hPlace : t.resolve? (base.join (.ofString item)) = .error .nullCharacter := by
    rw [FileTree.resolve?, if_pos hNull]
  obtain ⟨e, hPlaces⟩ := exists_mapM_eq_error
    (f := fun item => t.resolve? (base.join (.ofString item))) hItem hPlace
  exact ⟨e, by rw [ofConfig, hPlaces]; rfl⟩

/-- What passes does not stand at an excluded place, nor below one. -/
theorem not_isPrefix_of_passes {f : FileFilter} {p : Path} (h : f.passes t p = true)
    {place : List String} (hPlace : place ∈ f.excluded) : ¬ place <+: t.resolve p := by
  simp only [passes, Bool.and_eq_true, Bool.not_eq_true', List.any_eq_false] at h
  rw [← List.isPrefixOf_iff_prefix]
  exact h.2 place hPlace

end FileFilter

/-! ### Copies of any kind -/

namespace Transfer

section By
variable (copyFile : Path → Path → FileM Unit)

/-- Copies a file by an operation and notes the outcome. -/
def addFileBy (base destination : Path) (outcome : Transfer) (p : Path) : FileM Transfer := do
  let target := targetOf base destination p
  tryCatch (copyFile p target *> pure { outcome with copied := outcome.copied ++ [target] })
    fun e => if e.isRefusal then
      pure { outcome with failed := outcome.failed ++ [(p, e)] } else throw e

/-- Copies by an operation what a scan of a path finds and a filter lets pass. -/
def addTreeBy (source destination : Path) (filter : FileFilter) (outcome : Transfer) :
    FileM Transfer := do
  let base ← FileM.reading fun t => baseOf t source
  let found ← FileM.reading fun t => t.scan source FileTree.scanDepth
  let t ← get
  (found.filter (filter.passes t)).foldlM (addFileBy copyFile base destination) outcome

/-- Copies by an operation what is found under some paths, each with its filter. -/
def addTreesBy (destination : Path) (searches : List (Path × FileFilter)) (outcome : Transfer) :
    FileM Transfer :=
  searches.foldlM (fun outcome search =>
    addTreeBy copyFile search.1 destination search.2 outcome) outcome

/-- Copies by an operation the files of a template, and then those that settings add. -/
def staticFilesBy (templateFiles destination : Path) (s : StaticFiles) (base : Path) :
    FileM Transfer := do
  let outcome ← addTreeBy copyFile templateFiles destination .all {}
  if s.paths.isEmpty then return outcome
  let filter ← FileM.reading fun t => FileFilter.ofConfig t base s
  s.paths.foldlM (fun outcome path =>
    addTreeBy copyFile (base.join (.ofString path)) destination filter outcome) outcome

end By

/-- The static files of a site are copied by placing each. -/
theorem staticFilesBy_place : staticFilesBy place = staticFiles := rfl

/-- Whether an operation can stand for copying files into a destination. It fails only if the
file system refuses, at whichever files it does, and leaves names of files only. -/
structure IsCopying (destination : Path) (copyFile : Path → Path → FileM Unit) : Prop where
  refuses : ∀ {p : Path} {way : List String}, hasNull p = false → (∀ name ∈ way, IsName name) →
    FileM.Refuses (copyFile p { destination with parts := destination.parts ++ way })
  keeps : ∀ p target, Keeps KeepsNames (copyFile p target)

/-- What making a directory and writing a file keep, placing a file keeps. -/
theorem keeps_place {R : FileTree → FileTree → Prop} [Std.Refl R] [IsTrans FileTree R]
    (hMake : ∀ p, Keeps R (FileM.makeDirectory p))
    (hWrite : ∀ p content, Keeps R (FileM.write p content)) (p target : Path) :
    Keeps R (place p target) :=
  (FileM.keeps_makeDirectoriesFrom hMake _ _).bind fun _ => FileM.keeps_copy hWrite p target

theorem isCopying_place {destination : Path} (h : hasNull destination = false) :
    IsCopying destination place where
  refuses {p way} hSource hWay := by
    have hTarget : hasNull { destination with parts := destination.parts ++ way } = false := by
      refine FileTree.hasNull_eq_false fun part hPart => ?_
      rcases List.mem_append.1 hPart with hOld | hNew
      · exact FileTree.null_not_mem_of_hasNull h hOld
      · exact (hWay part hNew).null_not_mem
    exact (FileM.refuses_makeDirectories (FileTree.hasNull_parent hTarget)).bind fun _ =>
      FileM.refuses_copy hSource hTarget
  keeps := keeps_place FileM.keepsNames_makeDirectory FileM.keepsNames_write

theorem keeps_addTreeBy {copyFile : Path → Path → FileM Unit}
    {R : FileTree → FileTree → Prop} [Std.Refl R] [IsTrans FileTree R]
    (hKeep : ∀ p target, Keeps R (copyFile p target)) (source destination : Path)
    (filter : FileFilter) (outcome : Transfer) :
    Keeps R (addTreeBy copyFile source destination filter outcome) := by
  have hFile : ∀ base outcome p, Keeps R (addFileBy copyFile base destination outcome p) := by
    intro base outcome p
    refine Keeps.tryCatch ?_ fun e => ?_
    · rw [seqRight_eq_bind]
      exact (hKeep _ _).bind fun _ => .pure _
    · split
      · exact .pure _
      · exact .throw e
  exact (FileM.keeps_reading _).bind fun base => (FileM.keeps_reading _).bind fun _ =>
    Keeps.get.bind fun _ => .foldlM (hFile base) _ outcome

/-! ### Endings -/

/-- What became of a file that was to be copied. -/
structure Ending where
  file : Path
  target : Path
  result : Except FileError Unit

namespace Ending

/-- Where the file is now, if it was copied. -/
def copied? (e : Ending) : Option Path :=
  match e.result with
  | .ok () => some e.target
  | .error _ => none

/-- The file and why it was not copied, if so. -/
def failed? (e : Ending) : Option (Path × FileError) :=
  match e.result with
  | .ok () => none
  | .error fault => some (e.file, fault)

end Ending

/-- The report with what became of further files, each of which is copied or failed. -/
def noted (outcome : Transfer) (endings : List Ending) : Transfer where
  copied := outcome.copied ++ endings.filterMap Ending.copied?
  failed := outcome.failed ++ endings.filterMap Ending.failed?

@[simp] theorem noted_nil (outcome : Transfer) : outcome.noted [] = outcome := by
  simp [noted]

theorem noted_noted (outcome : Transfer) (endings later : List Ending) :
    (outcome.noted endings).noted later = outcome.noted (endings ++ later) := by
  simp [noted]

section Copying
variable (copyFile : Path → Path → FileM Unit)

/-- Whether files were copied one after the other, each with its ending. -/
inductive Copying : FileTree → List Ending → FileTree → Prop
  | done (t : FileTree) : Copying t [] t
  | next {t t' t'' : FileTree} {e : Ending} {endings : List Ending}
      (hCopy : (copyFile e.file e.target).run.run t = (e.result, t'))
      (hRest : Copying t' endings t'') : Copying t (e :: endings) t''

/-- A path that was gone through: the tree in which files were found under it, the filter, and
what became of the files. -/
structure Stage where
  tree : FileTree
  root : Path
  filter : FileFilter
  endings : List Ending

/-- Whether paths were gone through one after the other, each in the tree that the copies of
the one before left. -/
inductive Stages : FileTree → List Stage → FileTree → Prop
  | done (t : FileTree) : Stages t [] t
  | next {g : Stage} {stages : List Stage} {t t' : FileTree}
      (hCopying : Copying copyFile g.tree g.endings t) (hRest : Stages t stages t') :
      Stages g.tree (g :: stages) t'

end Copying

namespace Stage

/-- What was looked for. -/
def search (g : Stage) : Path × FileFilter := (g.root, g.filter)

/-- Whether all files that a scan finds and the filter lets pass have an ending, in the order of
the scan, with the target that the way to the file leads to from the destination. -/
structure IsComplete (destination : Path) (g : Stage) : Prop where
  files : ∃ found, g.tree.scan g.root FileTree.scanDepth = .ok found ∧
    g.endings.map Ending.file = found.filter (g.filter.passes g.tree)
  targets : ∀ e ∈ g.endings, ∃ way, g.tree.WayTo g.root e.file way ∧ ".." ∉ way ∧
    e.target = { destination with parts := destination.parts ++ way }
  refusals : ∀ e ∈ g.endings, ∀ fault, e.result = .error fault → fault.isRefusal = true

end Stage

variable {copyFile : Path → Path → FileM Unit} {destination : Path} {t t' : FileTree}

/-- Files can be copied one after the other, however the copies end. -/
theorem exists_copying (copyFile : Path → Path → FileM Unit) (target : Path → Path)
    (files : List Path) (t : FileTree) :
    ∃ endings t', Copying copyFile t endings t' ∧ endings.map Ending.file = files ∧
      ∀ e ∈ endings, e.target = target e.file ∧
        ∃ t₀, ((copyFile e.file e.target).run.run t₀).1 = e.result := by
  induction files generalizing t with
  | nil => exact ⟨[], t, .done t, rfl, by simp⟩
  | cons p files ih =>
    let run := (copyFile p (target p)).run.run t
    obtain ⟨endings, t', hCopying, hFiles, hEndings⟩ := ih run.2
    refine ⟨⟨p, target p, run.1⟩ :: endings, t', .next rfl hCopying, by simp [hFiles], ?_⟩
    exact List.forall_mem_cons.2 ⟨⟨rfl, t, rfl⟩, hEndings⟩

theorem run_addFileBy {base : Path} {e : Ending} (outcome : Transfer)
    (hTarget : e.target = targetOf base destination e.file)
    (hCopy : (copyFile e.file e.target).run.run t = (e.result, t'))
    (hRefusal : ∀ fault, e.result = .error fault → fault.isRefusal = true) :
    (addFileBy copyFile base destination outcome e.file).run.run t =
      (.ok (outcome.noted [e]), t') := by
  rw [addFileBy, run_tryCatch, seqRight_eq_bind, run_bind, ← hTarget, hCopy]
  cases hResult : e.result with
  | ok _ =>
    have hNoted : outcome.noted [e] = { outcome with copied := outcome.copied ++ [e.target] } := by
      simp [noted, Ending.copied?, Ending.failed?, hResult]
    rw [hNoted]
    rfl
  | error fault =>
    have hNoted : outcome.noted [e] =
        { outcome with failed := outcome.failed ++ [(e.file, fault)] } := by
      simp [noted, Ending.copied?, Ending.failed?, hResult]
    dsimp only
    rw [hNoted, if_pos (hRefusal fault hResult)]
    rfl

theorem run_foldlM_addFileBy {base : Path} {endings : List Ending}
    (h : Copying copyFile t endings t')
    (hTargets : ∀ e ∈ endings, e.target = targetOf base destination e.file)
    (hRefusals : ∀ e ∈ endings, ∀ fault, e.result = .error fault → fault.isRefusal = true)
    (outcome : Transfer) :
    ((endings.map Ending.file).foldlM (addFileBy copyFile base destination) outcome).run.run t =
      (.ok (outcome.noted endings), t') := by
  induction h generalizing outcome with
  | done t => rw [noted_nil]; rfl
  | @next t t' t'' e endings hCopy hRest ih =>
    obtain ⟨hTarget, hTargets⟩ := List.forall_mem_cons.1 hTargets
    obtain ⟨hRefusal, hRefusals⟩ := List.forall_mem_cons.1 hRefusals
    rw [List.map_cons, List.foldlM_cons, run_bind, run_addFileBy outcome hTarget hCopy hRefusal]
    dsimp only
    rw [ih hTargets hRefusals, noted_noted]
    rfl

/-! ### Paths -/

theorem baseOf_eq (t : FileTree) (root : Path) :
    baseOf t root = (t.isFile root).map fun here => if here then root.parent else root := by
  rw [baseOf]
  cases t.isFile root <;> rfl

/-- A target goes on from the destination by the way from the path to the file. -/
theorem targetOf_eq {root base p : Path} {way : List String} (hBase : baseOf t root = .ok base)
    (h : t.WayTo root p way) :
    targetOf base destination p = { destination with parts := destination.parts ++ way } := by
  rw [baseOf_eq] at hBase
  cases h with
  | itself hFile =>
    obtain ⟨name, hParts, hName, -⟩ := FileTree.exists_name_of_isFile hFile
    rw [hFile] at hBase
    obtain rfl : root.parent = base := Except.ok.inj hBase
    rw [targetOf, hName, hParts, Path.parent, List.drop_left]
  | below hFile way =>
    rw [hFile] at hBase
    obtain rfl : root = base := Except.ok.inj hBase
    rw [targetOf, List.drop_left]

theorem run_addTreeBy {g : Stage} (hComplete : g.IsComplete destination)
    (hCopying : Copying copyFile g.tree g.endings t') (outcome : Transfer) :
    (addTreeBy copyFile g.root destination g.filter outcome).run.run g.tree =
      (.ok (outcome.noted g.endings), t') := by
  obtain ⟨found, hScan, hFiles⟩ := hComplete.files
  have hShort := (FileTree.exists_scan_iff FileTree.scanDepth).1 ⟨found, hScan⟩
  obtain ⟨here, hIsFile⟩ := FileTree.exists_isFile fun hLong => hShort (.itself hLong)
  have hBase := baseOf_eq g.tree g.root
  rw [hIsFile] at hBase
  rw [addTreeBy, run_bind, FileM.run_reading, hBase]
  dsimp only [Except.map]
  rw [run_bind, FileM.run_reading, hScan]
  dsimp only
  rw [run_get_bind, ← hFiles]
  refine run_foldlM_addFileBy hCopying (fun e he => ?_) hComplete.refusals outcome
  obtain ⟨way, hWay, -, hTarget⟩ := hComplete.targets e he
  rw [targetOf_eq hBase hWay, hTarget]

/-- A path that is too long ends the run. -/
theorem run_addTreesBy_of_isTooLong {root : Path} (h : t.IsTooLong root) (filter : FileFilter)
    (rest : List (Path × FileFilter)) (outcome : Transfer) :
    (addTreesBy copyFile destination ((root, filter) :: rest) outcome).run.run t =
      (.error (.refused .nameTooLong root.text), t) := by
  rw [addTreesBy, List.foldlM_cons, run_bind, addTreeBy, run_bind, FileM.run_reading, baseOf_eq,
    h.isFile]
  rfl

/-- So does one below which something is too long. -/
theorem exists_error_of_isOverlong {root : Path} (h : t.IsOverlong root) (filter : FileFilter)
    (rest : List (Path × FileFilter)) (outcome : Transfer) : ∃ e left,
      (addTreesBy copyFile destination ((root, filter) :: rest) outcome).run.run t =
        (.error e, left) := by
  have hFirst : ∃ e left, (addTreeBy copyFile root destination filter outcome).run.run t =
      (.error e, left) := by
    rw [addTreeBy, run_bind, FileM.run_reading]
    cases baseOf t root with
    | error e => exact ⟨e, t, rfl⟩
    | ok base =>
      dsimp only
      rw [run_bind, FileM.run_reading]
      cases hScan : t.scan root FileTree.scanDepth with
      | error e => exact ⟨e, t, rfl⟩
      | ok found => exact absurd h ((FileTree.exists_scan_iff FileTree.scanDepth).1 ⟨found, hScan⟩)
  obtain ⟨e, left, hRun⟩ := hFirst
  refine ⟨e, left, ?_⟩
  rw [addTreesBy, List.foldlM_cons, run_bind, hRun]

theorem run_addTreesBy {stages : List Stage} (h : Stages copyFile t stages t')
    (hComplete : ∀ g ∈ stages, g.IsComplete destination) (outcome : Transfer) :
    (addTreesBy copyFile destination (stages.map Stage.search) outcome).run.run t =
      (.ok (outcome.noted (stages.flatMap Stage.endings)), t') := by
  induction h generalizing outcome with
  | done t =>
    rw [List.flatMap_nil, noted_nil]
    rfl
  | @next g stages t t' hCopying hRest ih =>
    obtain ⟨hFirst, hComplete⟩ := List.forall_mem_cons.1 hComplete
    rw [List.map_cons, addTreesBy, List.foldlM_cons, run_bind, Stage.search,
      run_addTreeBy hFirst hCopying]
    dsimp only
    rw [← addTreesBy, ih hComplete, noted_noted, List.flatMap_cons]

end Transfer

end DocSite

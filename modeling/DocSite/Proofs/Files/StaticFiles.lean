import DocSite.Proofs.Files.Transfers

/-! Reports on static files. The template and the configured paths are searched one after the
other, each in the tree that the copies before it left. Whichever copies the file system refuses,
the report has an ending for each file found that the filter lets pass. There is no report only
if a null character stands in an excluded path, or a path is too long by the time it is searched,
or something below it is: looking for it is an error then, while a path that leads to nothing is
passed over. -/

namespace DocSite

open FileTree (hasNull KeepsNames)

namespace Transfer

variable {copyFile : Path → Path → FileM Unit} {destination : Path} {t t' : FileTree}

/-! ### Runs -/

section Runs
variable (copyFile destination)

/-- Whether some path is too long, or something below it, by the time it is gone through. -/
inductive MeetsLongPath : FileTree → List (Path × FileFilter) → Prop
  | now {t : FileTree} {root : Path} {filter : FileFilter} {rest : List (Path × FileFilter)}
      (hLong : t.IsOverlong root) : MeetsLongPath t ((root, filter) :: rest)
  | later {g : Stage} {t : FileTree} {rest : List (Path × FileFilter)}
      (hComplete : g.IsComplete destination) (hCopying : Copying copyFile g.tree g.endings t)
      (hRest : MeetsLongPath t rest) : MeetsLongPath g.tree (g.search :: rest)

end Runs

theorem Copying.keeps {R : FileTree → FileTree → Prop} [Std.Refl R] [IsTrans FileTree R]
    (hKeep : ∀ p target, Keeps R (copyFile p target)) {endings : List Ending}
    (h : Copying copyFile t endings t') : R t t' := by
  induction h with
  | done t => exact refl_of R t
  | @next t t' t'' e endings hCopy hRest ih =>
    have hFirst := hKeep e.file e.target t
    rw [hCopy] at hFirst
    exact trans_of R hFirst ih

theorem Stages.keeps {R : FileTree → FileTree → Prop} [Std.Refl R] [IsTrans FileTree R]
    (hKeep : ∀ p target, Keeps R (copyFile p target)) {stages : List Stage}
    (h : Stages copyFile t stages t') : ∀ g ∈ stages, R t g.tree := by
  induction h with
  | done t => simp
  | @next g stages t t' hCopying hRest ih =>
    have hFirst := hCopying.keeps hKeep
    exact List.forall_mem_cons.2 ⟨refl_of R _, fun g' hg' => trans_of R hFirst (ih g' hg')⟩

namespace IsCopying
variable (hCopy : IsCopying destination copyFile)
include hCopy

/-- All files below a path can be gone through, unless some path is too long. -/
theorem exists_stage (hNamed : t.IsNamed) {root : Path} (hShort : ¬ t.IsOverlong root)
    (filter : FileFilter) : ∃ endings t', Copying copyFile t endings t' ∧
      Stage.IsComplete destination ⟨t, root, filter, endings⟩ := by
  obtain ⟨found, hScan⟩ := (FileTree.exists_scan_iff FileTree.scanDepth).2 hShort
  obtain ⟨here, hFile⟩ := FileTree.exists_isFile fun hLong => hShort (.itself hLong)
  have hBase := baseOf_eq t root
  rw [hFile] at hBase
  obtain ⟨endings, t', hCopying, hFiles, hEndings⟩ := exists_copying copyFile
    (targetOf (if here then root.parent else root) destination) (found.filter (filter.passes t)) t
  have hWays : ∀ e ∈ endings, ∃ way, t.WayTo root e.file way ∧ hasNull e.file = false ∧
      ∀ name ∈ way, IsName name := by
    intro e he
    have hMem := hFiles ▸ List.mem_map_of_mem (f := Ending.file) he
    exact FileTree.exists_wayTo hNamed hScan (List.mem_filter.1 hMem).1
  refine ⟨endings, t', hCopying, ⟨found, hScan, hFiles⟩, fun e he => ?_, fun e he => ?_⟩
  · obtain ⟨way, hWay, -, hNames⟩ := hWays e he
    refine ⟨way, hWay, fun hBack => (hNames _ hBack).ne_back rfl, ?_⟩
    rw [(hEndings e he).1, targetOf_eq hBase hWay]
  · obtain ⟨way, hWay, hNull, hNames⟩ := hWays e he
    obtain ⟨hTarget, t₀, hResult⟩ := hEndings e he
    rw [targetOf_eq hBase hWay] at hTarget
    rw [hTarget] at hResult
    exact fun fault hFault => hCopy.refuses hNull hNames t₀ fault (hResult.trans hFault)

theorem exists_stages (hNamed : t.IsNamed) {searches : List (Path × FileFilter)}
    (hMeets : ¬ MeetsLongPath copyFile destination t searches) :
    ∃ stages t', stages.map Stage.search = searches ∧ Stages copyFile t stages t' ∧
      ∀ g ∈ stages, g.IsComplete destination := by
  induction searches generalizing t with
  | nil => exact ⟨[], t, rfl, .done t, by simp⟩
  | cons search searches ih =>
    obtain ⟨root, filter⟩ := search
    obtain ⟨endings, t', hCopying, hComplete⟩ :=
      hCopy.exists_stage hNamed (fun hLong => hMeets (.now hLong)) filter
    have hKept := hCopying.keeps hCopy.keeps
    obtain ⟨stages, t'', rfl, hStages, hStagesComplete⟩ :=
      ih (hKept.isNamed hNamed) fun hRest => hMeets (.later hComplete hCopying hRest)
    let g : Stage := ⟨t, root, filter, endings⟩
    have hAll : Stages copyFile g.tree (g :: stages) t'' := .next hCopying hStages
    exact ⟨g :: stages, t'', rfl, hAll, List.forall_mem_cons.2 ⟨hComplete, hStagesComplete⟩⟩

end IsCopying

theorem exists_error_of_meetsLongPath {searches : List (Path × FileFilter)}
    (h : MeetsLongPath copyFile destination t searches) (outcome : Transfer) :
    ∃ e left, (addTreesBy copyFile destination searches outcome).run.run t = (.error e, left) := by
  induction h generalizing outcome with
  | now hLong => exact exists_error_of_isOverlong hLong _ _ outcome
  | @later g t rest hComplete hCopying hRest ih =>
    obtain ⟨e, left, hRun⟩ := ih (outcome.noted g.endings)
    refine ⟨e, left, ?_⟩
    rw [addTreesBy, List.foldlM_cons, run_bind, Stage.search, run_addTreeBy hComplete hCopying]
    exact hRun

/-- What is looked for: all files of the template, and those under the configured paths that the
filter of the settings lets pass. -/
def searches (t : FileTree) (templateFiles : Path) (s : StaticFiles) (base : Path) :
    List (Path × FileFilter) :=
  (templateFiles, .all) ::
    s.paths.map fun path => (base.join (.ofString path), .ofSettings t base s)

variable {s : StaticFiles} {base templateFiles : Path}

/-- Static files are copied by one search after the other, if the excluded paths are paths. -/
theorem run_staticFilesBy (hKeep : ∀ p target, Keeps KeepsNames (copyFile p target))
    (hNull : s.paths ≠ [] → ∀ item ∈ s.excluded, hasNull (base.join (.ofString item)) = false) :
    (staticFilesBy copyFile templateFiles destination s base).run.run t =
      (addTreesBy copyFile destination (searches t templateFiles s base) {}).run.run t := by
  rw [staticFilesBy, addTreesBy, searches, List.foldlM_cons, run_bind, run_bind]
  rcases hRun : (addTreeBy copyFile templateFiles destination .all {}).run.run t with
    ⟨e | outcome, t'⟩
  · rfl
  · have hKept := keeps_addTreeBy hKeep templateFiles destination .all {} t
    rw [hRun] at hKept
    dsimp only
    cases hPaths : s.paths with
    | nil => rfl
    | cons path paths =>
      have hFilter : FileFilter.ofConfig t' base s = .ok (.ofSettings t base s) := by
        rw [FileFilter.ofConfig_eq_ok (hNull (by simp [hPaths])),
          FileFilter.ofSettings_congr hKept.current]
      rw [List.isEmpty_cons, if_neg Bool.false_ne_true, run_bind, FileM.run_reading, hFilter,
        List.foldlM_map]

/-- An excluded path that is none ends the run, unless no path is configured. -/
theorem exists_error_of_hasNull (hPaths : s.paths ≠ []) {item : String} (hItem : item ∈ s.excluded)
    (hNull : hasNull (base.join (.ofString item)) = true) :
    ∃ e left, (staticFilesBy copyFile templateFiles destination s base).run.run t =
      (.error e, left) := by
  rw [staticFilesBy, run_bind]
  rcases (addTreeBy copyFile templateFiles destination .all {}).run.run t with ⟨e | outcome, t'⟩
  · exact ⟨e, t', rfl⟩
  · obtain ⟨e, hFilter⟩ := FileFilter.exists_ofConfig_eq_error (t := t') hItem hNull
    refine ⟨e, t', ?_⟩
    dsimp only
    rw [if_neg (by simpa using hPaths), run_bind, FileM.run_reading, hFilter]

/-- How a report accounts for all files. The paths were gone through one after the other, from the
files that there were at first to those that are left; each file found that its filter lets pass
has one ending, in the order of the scan, and the report has just these. None that is found under
a configured path stands at an excluded place or below one. -/
structure Accounts (copyFile : Path → Path → FileM Unit) (templateFiles destination : Path)
    (s : StaticFiles) (base : Path) (t left : FileTree) (stages : List Stage)
    (outcome : Transfer) : Prop where
  searches_eq : stages.map Stage.search = searches t templateFiles s base
  gone : Stages copyFile t stages left
  complete : ∀ g ∈ stages, g.IsComplete destination
  outcome_eq : outcome = noted {} (stages.flatMap Stage.endings)
  excluded : ∀ g ∈ stages.tail, ∀ e ∈ g.endings, ∀ item ∈ s.excluded,
    ¬ t.resolve (base.join (.ofString item)) <+: t.resolve e.file

theorem accounts_of_stages (hKeep : ∀ p target, Keeps KeepsNames (copyFile p target))
    {left : FileTree} {stages : List Stage}
    (hSearches : stages.map Stage.search = searches t templateFiles s base)
    (hStages : Stages copyFile t stages left) (hComplete : ∀ g ∈ stages, g.IsComplete destination) :
    Accounts copyFile templateFiles destination s base t left stages
      (noted {} (stages.flatMap Stage.endings)) := by
  refine ⟨hSearches, hStages, hComplete, rfl, fun g hg e he item hItem => ?_⟩
  have hMem := List.mem_of_mem_tail hg
  have hFilter : g.filter = .ofSettings t base s := by
    have hSearch := List.mem_map_of_mem (f := Stage.search) hg
    rw [List.map_tail, hSearches, searches, List.tail_cons] at hSearch
    obtain ⟨path, -, hEq⟩ := List.mem_map.1 hSearch
    exact (congrArg Prod.snd hEq).symm
  obtain ⟨found, -, hFiles⟩ := (hComplete g hMem).files
  have hFile := hFiles ▸ List.mem_map_of_mem (f := Ending.file) he
  have hPasses := (List.mem_filter.1 hFile).2
  rw [← FileFilter.resolve_congr (hStages.keeps hKeep g hMem).current e.file]
  refine FileFilter.not_isPrefix_of_passes hPasses ?_
  rw [hFilter]
  exact List.mem_map_of_mem (f := fun item => t.resolve (base.join (.ofString item))) hItem

/-- Copying the static files ends with a report that accounts for all of them, whichever of the
copies the file system refuses, exactly if no excluded path holds a null character and no path
nor anything below it is too long by the time it is gone through. -/
theorem staticFilesBy_accounts_iff (hCopy : IsCopying destination copyFile) (hNamed : t.IsNamed)
    (templateFiles base : Path) (s : StaticFiles) :
    (∃ outcome left stages,
      (staticFilesBy copyFile templateFiles destination s base).run.run t = (.ok outcome, left) ∧
      Accounts copyFile templateFiles destination s base t left stages outcome) ↔
      (s.paths ≠ [] → ∀ item ∈ s.excluded, hasNull (base.join (.ofString item)) = false) ∧
      ¬ MeetsLongPath copyFile destination t (searches t templateFiles s base) := by
  constructor
  · rintro ⟨outcome, left, stages, hRun, -⟩
    have hNull : s.paths ≠ [] →
        ∀ item ∈ s.excluded, hasNull (base.join (.ofString item)) = false := by
      intro hPaths item hItem
      by_contra hItemNull
      obtain ⟨e, left', hError⟩ := exists_error_of_hasNull hPaths hItem
        (Bool.not_eq_false _ ▸ hItemNull)
      rw [hError] at hRun
      cases hRun
    refine ⟨hNull, fun hMeets => ?_⟩
    obtain ⟨e, left', hError⟩ := exists_error_of_meetsLongPath hMeets {}
    rw [run_staticFilesBy hCopy.keeps hNull, hError] at hRun
    cases hRun
  · rintro ⟨hNull, hMeets⟩
    obtain ⟨stages, left, hSearches, hStages, hComplete⟩ := hCopy.exists_stages hNamed hMeets
    refine ⟨_, left, stages, ?_, accounts_of_stages hCopy.keeps hSearches hStages hComplete⟩
    rw [run_staticFilesBy hCopy.keeps hNull, ← hSearches, run_addTreesBy hStages hComplete]

/-- Two files, one of them excluded, and one that is in the site already. -/
def sharedFiles : FileTree where
  entries := [(["one.js"], .file []), (["two.js"], .file []), (["sub"], .directory),
    (["site"], .directory), (["site", "own.js"], .file [])]
  current := []

/-- All three files, by paths that go through a directory and back. -/
def sharedSettings : StaticFiles where
  paths := ["site/own.js", "sub/../one.js", "sub/../two.js"]
  include? := none
  exclude? := none
  excluded := ["./two.js"]

/-- The copy of a file onto itself is refused, the next one is made, and the excluded file is not
copied, however its path is written. -/
theorem staticFilesBy_accounts_iff_sharedFiles :
    IsCopying ⟨.here, ["site"]⟩ place ∧ sharedFiles.IsNamed ∧
    ∃ outcome left stages,
      (staticFiles ⟨.here, ["none"]⟩ ⟨.here, ["site"]⟩ sharedSettings ⟨.here, []⟩).run.run
        sharedFiles = (.ok outcome, left) ∧
      Accounts place ⟨.here, ["none"]⟩ ⟨.here, ["site"]⟩ sharedSettings ⟨.here, []⟩ sharedFiles
        left stages outcome ∧
      outcome.copied = [⟨.here, ["site", "one.js"]⟩] ∧
      outcome.failed.map Prod.fst = [⟨.here, ["site", "own.js"]⟩] := by
  have hCopy : IsCopying ⟨.here, ["site"]⟩ place := isCopying_place (by decide)
  have hNamed : sharedFiles.IsNamed := by decide +kernel
  have hNull : ∀ item ∈ sharedSettings.excluded,
      hasNull (Path.join ⟨.here, []⟩ (.ofString item)) = false := by
    decide +kernel
  have hFound :
      ((staticFiles ⟨.here, ["none"]⟩ ⟨.here, ["site"]⟩ sharedSettings ⟨.here, []⟩).run.run
      sharedFiles).1.toOption.map (fun o => (o.copied, o.failed.map Prod.fst)) =
        some ([⟨.here, ["site", "one.js"]⟩], [⟨.here, ["site", "own.js"]⟩]) := by
    decide +kernel
  have hMeets : ¬ MeetsLongPath place ⟨.here, ["site"]⟩ sharedFiles
      (searches sharedFiles ⟨.here, ["none"]⟩ sharedSettings ⟨.here, []⟩) := by
    intro hMeets
    obtain ⟨e, left, hError⟩ := exists_error_of_meetsLongPath hMeets {}
    rw [← staticFilesBy_place, run_staticFilesBy hCopy.keeps fun _ => hNull, hError] at hFound
    cases hFound
  obtain ⟨outcome, left, stages, hRun, hAccounts⟩ :=
    (staticFilesBy_accounts_iff hCopy hNamed ⟨.here, ["none"]⟩ ⟨.here, []⟩ sharedSettings).2
      ⟨fun _ => hNull, hMeets⟩
  rw [staticFilesBy_place] at hRun
  rw [hRun] at hFound
  obtain ⟨hCopied, hFailed⟩ := Prod.mk.inj (Option.some.inj hFound)
  exact ⟨hCopy, hNamed, outcome, left, stages, hRun, hAccounts, hCopied, hFailed⟩

/-- A name that is longer than the file system allows. -/
def longName : String := .ofList (List.replicate 256 'n')

/-- A path that cannot be there, and a file that is. -/
def longPathSettings : StaticFiles where
  paths := [longName, "one.js"]
  include? := none
  exclude? := none
  excluded := []

theorem eq_of_mem_row {n : ℕ} {a c : Char}
    (h : c ∈ (String.ofList (List.replicate n a)).toList) : c = a := by
  rw [String.toList_ofList] at h
  exact List.eq_of_mem_replicate h

theorem ofString_longName : Path.ofString longName = ⟨.here, [longName]⟩ := by
  refine Path.ofString_of_not_mem (fun hSlash => ?_) (by decide +kernel)
  exact absurd (eq_of_mem_row hSlash) (by decide)

/-- The file is found and could be copied, but there is no report, since a path before it is too
long. -/
theorem staticFiles_longPath :
    sharedFiles.scan ⟨.here, ["one.js"]⟩ FileTree.scanDepth = .ok [⟨.here, ["one.js"]⟩] ∧
    (FileFilter.ofSettings sharedFiles ⟨.here, []⟩ longPathSettings).passes sharedFiles
      ⟨.here, ["one.js"]⟩ = true ∧
    ((place ⟨.here, ["one.js"]⟩ ⟨.here, ["site", "one.js"]⟩).run.run sharedFiles).1 = .ok () ∧
    (staticFiles ⟨.here, ["none"]⟩ ⟨.here, ["site"]⟩ longPathSettings ⟨.here, []⟩).run.run
      sharedFiles = (.error (.refused .nameTooLong longName), sharedFiles) := by
  have hCopy : IsCopying ⟨.here, ["site"]⟩ place := isCopying_place (by decide)
  have hLong : sharedFiles.IsTooLong ⟨.here, [longName]⟩ :=
    FileTree.isTooLong_of_name (fun hNull => absurd (eq_of_mem_row hNull) (by decide))
      (by decide +kernel) _ _
  have hTemplate : (addTreeBy place ⟨.here, ["none"]⟩ ⟨.here, ["site"]⟩ .all {}).run.run
      sharedFiles = (.ok {}, sharedFiles) := rfl
  refine ⟨FileTree.scan_of_isFile rfl _, by decide +kernel, rfl, ?_⟩
  rw [← staticFilesBy_place, run_staticFilesBy hCopy.keeps (by simp [longPathSettings]), searches,
    addTreesBy, List.foldlM_cons, run_bind, hTemplate]
  dsimp only
  rw [← addTreesBy, longPathSettings, List.map_cons, ofString_longName]
  exact run_addTreesBy_of_isTooLong hLong _ _ _

end Transfer

end DocSite

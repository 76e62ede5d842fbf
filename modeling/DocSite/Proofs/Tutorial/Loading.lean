import DocSite.Proofs.Files.Scanning
import DocSite.Proofs.Tutorial.Arranging
import DocSite.Proofs.Tutorial.Levels
import DocSite.Tutorial.Directory

/-! Loading a directory of tutorials. The pages come first, all of them at the top level, in the
order of their paths and one for every name; then the hierarchy arranges them. Nothing is lost
on the way: what is listed level by level in the end are the tutorials of these pages. -/

namespace DocSite

namespace TutorialTree

open HierarchyEntry

/-! ### Trees with a top level only -/

/-- The tree of some tutorials that are all at the top level. -/
def top (tutorials : List Tutorial) : TutorialTree :=
  ⟨⟨⟨"", "", "", .html⟩, none, List.range' 1 tutorials.length⟩ ::
    tutorials.map fun tutorial => ⟨tutorial, some root, []⟩⟩

section Top
variable (tutorials : List Tutorial)

theorem length_nodes_top : (top tutorials).nodes.length = tutorials.length + 1 := by simp [top]

theorem node?_top_succ (i : ℕ) : (top tutorials).node? (i + 1) =
    tutorials[i]?.map fun tutorial => ⟨tutorial, some root, []⟩ := by
  simp [node?, top]

/-- The root is no tutorial, and the others are numbered in order. -/
theorem tutorial?_top_succ (i : ℕ) : (top tutorials).tutorial? (i + 1) = tutorials[i]? := by
  simp [tutorial?, node?_top_succ, Function.comp_def]

theorem parentOf_top (i : ℕ) :
    (top tutorials).parentOf i =
      if i ∈ List.range' 1 tutorials.length then some root else none := by
  have hMem := List.mem_range'_1 (m := i) (s := 1) (n := tutorials.length)
  cases i with
  | zero =>
    rw [if_neg (mt hMem.1 (by omega))]
    rfl
  | succ i =>
    rw [parentOf, node?_top_succ]
    by_cases hi : i < tutorials.length
    · rw [if_pos (hMem.2 (by omega)), List.getElem?_eq_getElem hi]
      rfl
    · rw [if_neg (mt hMem.1 (by omega)), List.getElem?_eq_none (by omega)]
      rfl

theorem childrenOf_top (i : ℕ) : (top tutorials).childrenOf i =
    if i = root then List.range' 1 tutorials.length else [] := by
  cases i with
  | zero => rfl
  | succ i =>
    have hNot : i + 1 ≠ root := Nat.succ_ne_zero i
    rw [childrenOf, node?_top_succ, if_neg hNot]
    cases tutorials[i]? <;> rfl

theorem isRooted_top : (top tutorials).IsRooted := by
  have hParent : ∀ {i p}, (top tutorials).parentOf i = some p → p = root := by
    intro i p h
    rw [parentOf_top] at h
    split_ifs at h
    exact (Option.some.inj h).symm
  have hRoot : Acc (fun p c => (top tutorials).parentOf c = some p) root := by
    refine ⟨_, fun p h => ?_⟩
    simp [parentOf_top, root] at h
  refine ⟨⟨?_, ?_, ⟨fun i => ⟨_, fun p h => hParent h ▸ hRoot⟩⟩⟩, ?_⟩
  · intro p c
    rw [parentOf_top, childrenOf_top]
    by_cases hp : p = root <;> by_cases hc : c ∈ List.range' 1 tutorials.length <;>
      simp [hp, hc, eq_comm]
  · intro p
    rw [childrenOf_top]
    split
    · exact List.nodup_range'
    · exact List.nodup_nil
  · intro i hi hRoot
    rw [length_nodes_top] at hi
    have hMem : i ∈ List.range' 1 tutorials.length := by
      rw [List.mem_range'_1]
      have := Nat.pos_of_ne_zero hRoot
      omega
    rw [parentOf_top, if_pos hMem, Option.isSome_some]

theorem modify_concat {α : Type} (xs : List α) (x : α) (f : α → α) :
    (xs ++ [x]).modify xs.length f = xs ++ [f x] := by
  rw [List.modify_eq_set_getElem?]
  simp

/-- A tutorial more at the end of the top level. -/
theorem addTop_top (tutorial : Tutorial) :
    (top tutorials).addTop tutorial = top (tutorials ++ [tutorial]) := by
  have hAdded : ((top tutorials).add tutorial).2.parentOf (tutorials.length + 1) = none := by
    simp [add, top, parentOf, node?]
  have hDetach : ((top tutorials).add tutorial).2.detach (tutorials.length + 1) =
      ((top tutorials).add tutorial).2 := by
    rw [detach, hAdded]
  have hLast := modify_concat
    (tutorials.map fun tutorial => TutorialNode.mk tutorial (some root) [])
    (TutorialNode.mk tutorial none []) fun n => { n with parent := some root }
  rw [List.length_map] at hLast
  have hNumber : ((top tutorials).add tutorial).1 = tutorials.length + 1 :=
    length_nodes_top tutorials
  simp only [addTop, addChild]
  rw [hNumber, hDetach]
  simp [add, top, update, hLast, List.range'_1_concat, Nat.add_comm]
  rfl

theorem find?_top_isSome (name : String) :
    ((top tutorials).find? name).isSome ↔ name ∈ tutorials.map Tutorial.name := by
  simp [find?, top, List.findIdx?_isSome]

end Top

/-! ### Pages -/

/-- The page that a file holds, which is not hidden and ends as one does. -/
def page? (p : Path) : Option (Path × ContentFormat) :=
  if p.name.toList.head? == some '.' then none
  else match roleOf? p with
    | some (.page format) => some (p, format)
    | _ => none

/-- Of some pages those whose stem no earlier one has. -/
def firstPerStem : List (Path × ContentFormat) → List (Path × ContentFormat)
  | [] => []
  | page :: rest => page :: (firstPerStem rest).filter fun other => other.1.stem != page.1.stem

/-- The pages among some files, one for every stem. -/
def firstPages (paths : List Path) : List (Path × ContentFormat) :=
  firstPerStem (paths.filterMap page?)

theorem mem_stems_firstPerStem (stem : String) (pages : List (Path × ContentFormat)) :
    stem ∈ (firstPerStem pages).map (·.1.stem) ↔ stem ∈ pages.map (·.1.stem) := by
  induction pages with
  | nil => rfl
  | cons page pages ih =>
    by_cases hSame : stem = page.1.stem
    · simp [firstPerStem, hSame]
    · rw [List.map_cons, List.mem_cons, ← ih, firstPerStem, List.map_cons, List.mem_cons]
      refine or_congr_right ?_
      simp only [List.mem_map, List.mem_filter, bne_iff_ne]
      constructor
      · rintro ⟨other, ⟨hMem, -⟩, rfl⟩
        exact ⟨other, hMem, rfl⟩
      · rintro ⟨other, hMem, rfl⟩
        exact ⟨other, ⟨hMem, hSame⟩, rfl⟩

/-- No two of the pages have one stem. -/
theorem nodup_stems_firstPerStem (pages : List (Path × ContentFormat)) :
    ((firstPerStem pages).map (·.1.stem)).Nodup := by
  induction pages with
  | nil => exact List.nodup_nil
  | cons page pages ih =>
    rw [firstPerStem, List.map_cons, List.nodup_cons]
    refine ⟨?_, ih.sublist (List.filter_sublist.map _)⟩
    simp

theorem firstPerStem_concat_of_not_mem {pages : List (Path × ContentFormat)}
    (page : Path × ContentFormat) (h : page.1.stem ∉ pages.map (·.1.stem)) :
    firstPerStem (pages ++ [page]) = firstPerStem pages ++ [page] := by
  induction pages with
  | nil => rfl
  | cons first pages ih =>
    rw [List.map_cons, List.mem_cons, not_or] at h
    rw [List.cons_append, firstPerStem, firstPerStem, ih h.2]
    simp [h.1]

theorem firstPerStem_concat_of_mem {pages : List (Path × ContentFormat)}
    (page : Path × ContentFormat) (h : page.1.stem ∈ pages.map (·.1.stem)) :
    firstPerStem (pages ++ [page]) = firstPerStem pages := by
  induction pages with
  | nil => exact absurd h List.not_mem_nil
  | cons first pages ih =>
    rw [List.cons_append, firstPerStem, firstPerStem]
    by_cases hOld : page.1.stem ∈ pages.map (·.1.stem)
    · rw [ih hOld]
    · rw [List.map_cons, List.mem_cons] at h
      rw [firstPerStem_concat_of_not_mem page hOld]
      simp [h.resolve_right hOld]

/-- A tutorial is what a file holds, named by the stem of the file. -/
structure IsPageOf (files : FileTree) (page : Path × ContentFormat) (tutorial : Tutorial) :
    Prop where
  name_eq : tutorial.name = page.1.stem
  title_eq : tutorial.title = page.1.stem
  format_eq : tutorial.format = page.2
  content_eq : files.readText FileTree.plainEncoding page.1 = .ok tutorial.content.toList

/-- The tutorials that are loaded from some files are at the top level, in the order of the
files, one for every stem. -/
def HoldsPages (files : FileTree) (paths : List Path) (loaded : Loaded) : Prop :=
  ∃ tutorials, loaded.tree = top tutorials ∧
    List.Forall₂ (IsPageOf files) (firstPages paths) tutorials

theorem names_eq_stems {files : FileTree} {pages : List (Path × ContentFormat)}
    {tutorials : List Tutorial} (h : List.Forall₂ (IsPageOf files) pages tutorials) :
    tutorials.map Tutorial.name = pages.map (·.1.stem) := by
  induction h with
  | nil => rfl
  | cons hPage _ ih => rw [List.map_cons, List.map_cons, ih, hPage.name_eq]

variable {yaml : Yaml.Loader} {files : FileTree} {paths : List Path} {loaded loaded' : Loaded}

theorem HoldsPages.of_not_page (h : HoldsPages files paths loaded) {p : Path}
    (hPage : page? p = none) (hTree : loaded'.tree = loaded.tree) :
    HoldsPages files (paths ++ [p]) loaded' := by
  obtain ⟨tutorials, hTop, hPages⟩ := h
  refine ⟨tutorials, hTree.trans hTop, ?_⟩
  simpa [firstPages, hPage] using hPages

/-- What adding a file does. One that is no page leaves the tutorials as they are, and so does a
page whose stem is known; any other page is read and becomes the last tutorial. -/
theorem cases_addFile {p : Path} (h : addFile yaml files loaded p = .ok loaded') :
    (page? p = none ∧ loaded'.tree = loaded.tree) ∨
      ∃ format, page? p = some (p, format) ∧
        (((loaded.tree.find? p.stem).isSome ∧ loaded' = loaded) ∨
          ¬ (loaded.tree.find? p.stem).isSome ∧
            ∃ text, files.readText FileTree.plainEncoding p = .ok text ∧
              loaded'.tree = loaded.tree.addTop ⟨p.stem, p.stem, .ofList text, format⟩) := by
  have hLength : FileTree.checkLength p = .ok () := by
    cases hCheck : FileTree.checkLength p with
    | error e =>
      rw [addFile, hCheck] at h
      cases h
    | ok _ => rfl
  rw [addFile, hLength] at h
  change (if p.name.toList.head? == some '.' then _ else _) = Except.ok loaded' at h
  split at h
  next hHidden => exact .inl ⟨by simp [page?, hHidden], Except.ok.inj h ▸ rfl⟩
  next hShown =>
    cases hRole : roleOf? p with
    | none =>
      rw [hRole] at h
      exact .inl ⟨by simp [page?, hRole], Except.ok.inj h ▸ rfl⟩
    | some role =>
      rw [hRole] at h
      cases role with
      | hierarchy =>
        refine .inl ⟨by simp [page?, hRole], ?_⟩
        dsimp only at h
        cases hRead : readHierarchy yaml files p with
        | error e =>
          rw [hRead] at h
          cases h
        | ok entries =>
          rw [hRead] at h
          exact Except.ok.inj h ▸ rfl
      | page format =>
        refine .inr ⟨format, by simp [page?, hShown, hRole], ?_⟩
        dsimp only at h
        split at h
        next hOld => exact .inl ⟨hOld, (Except.ok.inj h).symm⟩
        next hNew =>
          cases hRead : files.readText FileTree.plainEncoding p with
          | error e =>
            rw [hRead] at h
            cases h
          | ok text =>
            rw [hRead] at h
            exact .inr ⟨hNew, text, rfl, Except.ok.inj h ▸ rfl⟩

theorem HoldsPages.addFile (h : HoldsPages files paths loaded) {p : Path}
    (hAdd : addFile yaml files loaded p = .ok loaded') :
    HoldsPages files (paths ++ [p]) loaded' := by
  obtain ⟨hNone, hTree⟩ | ⟨format, hPage, hCases⟩ := cases_addFile hAdd
  · exact h.of_not_page hNone hTree
  obtain ⟨tutorials, hTop, hPages⟩ := h
  have hFirst : firstPages (paths ++ [p]) =
      firstPerStem (paths.filterMap page? ++ [(p, format)]) := by
    simp [firstPages, hPage]
  have hStems : (loaded.tree.find? p.stem).isSome ↔
      p.stem ∈ (paths.filterMap page?).map (·.1.stem) := by
    rw [hTop, find?_top_isSome, names_eq_stems hPages]
    exact mem_stems_firstPerStem _ _
  obtain ⟨hOld, rfl⟩ | ⟨hNew, text, hRead, hTree⟩ := hCases
  · refine ⟨tutorials, hTop, ?_⟩
    rwa [hFirst, firstPerStem_concat_of_mem (p, format) (hStems.1 hOld)]
  · have hSelf : IsPageOf files (p, format) ⟨p.stem, p.stem, .ofList text, format⟩ := by
      refine ⟨rfl, rfl, rfl, ?_⟩
      rw [String.toList_ofList]
      exact hRead
    refine ⟨tutorials ++ [⟨p.stem, p.stem, .ofList text, format⟩], ?_, ?_⟩
    · rw [hTree, hTop, addTop_top]
    · rw [hFirst, firstPerStem_concat_of_not_mem (p, format) (mt hStems.2 hNew)]
      exact List.rel_append hPages (.cons hSelf .nil)

theorem HoldsPages.foldlM (h : HoldsPages files paths loaded) {rest : List Path}
    (hAdd : rest.foldlM (TutorialTree.addFile yaml files) loaded = .ok loaded') :
    HoldsPages files (paths ++ rest) loaded' := by
  induction rest generalizing paths loaded with
  | nil =>
    obtain rfl := Except.ok.inj hAdd
    rwa [List.append_nil]
  | cons p rest ih =>
    rw [List.foldlM_cons] at hAdd
    cases hFirst : TutorialTree.addFile yaml files loaded p with
    | error e =>
      rw [hFirst] at hAdd
      cases hAdd
    | ok next =>
      rw [hFirst] at hAdd
      rw [List.append_cons]
      exact ih (h.addFile hFirst) hAdd

/-- The files among what a scan has found. -/
def filePaths (found : List (Path × FileEntry)) : List Path :=
  found.filterMap fun (p, entry) => match entry with
    | .file _ => some p
    | .directory => none

/-- What is read from a directory is what its files hold, in the order in which they are found. -/
theorem readFiles_eq (yaml : Yaml.Loader) {directory : Path} {found : List (Path × FileEntry)}
    (hFound : files.walkBelow directory = .ok found) : readFiles yaml files directory =
      (filePaths found).foldlM (TutorialTree.addFile yaml files) ⟨empty, []⟩ := by
  rw [readFiles, hFound]
  rfl

theorem exists_walkBelow_of_readFiles {directory : Path}
    (h : readFiles yaml files directory = .ok loaded) :
    ∃ found, files.walkBelow directory = .ok found ∧ HoldsPages files (filePaths found) loaded := by
  cases hFound : files.walkBelow directory with
  | error e =>
    rw [readFiles, hFound] at h
    cases h
  | ok found =>
    rw [readFiles_eq yaml hFound] at h
    have hNone : HoldsPages files [] ⟨empty, []⟩ := ⟨[], rfl, .nil⟩
    exact ⟨found, rfl, hNone.foldlM h⟩

/-- A load that succeeds has read the files and has come to the end of the hierarchy. -/
theorem exists_applyAll_of_load {directory : Path} {t : TutorialTree}
    (h : load yaml files directory = .ok t) :
    ∃ loaded, readFiles yaml files directory = .ok loaded ∧
      applyAll loaded.tree none (ofEntries loaded.hierarchy) = some t := by
  cases hRead : readFiles yaml files directory with
  | error e =>
    rw [load, hRead] at h
    cases h
  | ok loaded =>
    simp only [load, hRead, bind, Except.bind] at h
    split at h
    next t' hApply =>
      obtain rfl := Except.ok.inj h
      exact ⟨loaded, rfl, hApply⟩
    next => cases h

end TutorialTree

end DocSite

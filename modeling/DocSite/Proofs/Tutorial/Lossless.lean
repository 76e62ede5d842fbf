import DocSite.Proofs.Tutorial.Loading

/-! A hierarchy loses no tutorial. Before it is applied all tutorials are at the top level, and
however it names them, at whatever depth, more than once or below themselves, the tree that it
leaves is a forest in which every tutorial has a parent. So each of them is reached from the
root, and is listed once. -/

namespace DocSite

namespace TutorialTree

open HierarchyEntry

variable {t : TutorialTree}

/-- From every node of a rooted tree a climb comes to the root, so all are listed but the root. -/
theorem IsRooted.mem_flatten_iff (h : t.IsRooted) (i : ℕ) :
    i ∈ t.flatten ↔ i ≠ root ∧ i < t.nodes.length := by
  rw [h.isForest.mem_flatten_iff]
  constructor
  · rintro ⟨k, hClimb⟩
    refine ⟨?_, ?_⟩
    · rintro rfl
      exact h.isForest.climb_ne_self k _ hClimb
    · obtain ⟨p, hParent, -⟩ := Option.bind_eq_some_iff.1 hClimb
      exact lt_of_parentOf hParent
  · induction i using h.isForest.wellFounded.induction with
    | _ i ih =>
      rintro ⟨hRoot, hLt⟩
      obtain ⟨p, hParent⟩ := Option.isSome_iff_exists.1 (h.attached i hLt hRoot)
      by_cases hp : p = root
      · exact ⟨0, by rw [climb_succ, hParent, hp, Option.bind_some, climb_zero]⟩
      · obtain ⟨k, hClimb⟩ := ih p hParent ⟨hp, h.isForest.parent_lt hParent⟩
        exact ⟨k + 1, by rw [climb_succ, hParent, Option.bind_some, hClimb]⟩

/-- The tutorials of a rooted tree are listed once each. -/
theorem IsRooted.flatten_perm (h : t.IsRooted) {n : ℕ} (hLength : t.nodes.length = n + 1) :
    t.flatten.Perm (List.range' 1 n) := by
  refine (List.perm_ext_iff_of_nodup h.isForest.nodup_flatten List.nodup_range').2 fun i => ?_
  rw [h.mem_flatten_iff, List.mem_range'_1, hLength, Nat.add_comm n 1]
  exact and_congr_left' Nat.pos_iff_ne_zero.symm

theorem IsRooted.exists_parentOf (h : t.IsRooted) {i : ℕ} (hi : i ∈ t.flatten) :
    ∃ p, t.parentOf i = some p := by
  obtain ⟨hRoot, hLt⟩ := (h.mem_flatten_iff i).1 hi
  exact Option.isSome_iff_exists.1 (h.attached i hLt hRoot)

/-- At the top level only the root is a parent, so arranging has an entry for every other one. -/
theorem Arranged.listsNode_of_top {listed : String → String → Prop} {tutorials : List Tutorial}
    (h : Arranged listed (top tutorials) t) {p c : ℕ} (hParent : t.parentOf c = some p)
    (hRoot : p ≠ root) : t.ListsNode listed p c := by
  rcases h.edge hParent with hTop | ⟨-, hLists⟩
  · rw [parentOf_top] at hTop
    split_ifs at hTop
    exact absurd (Option.some.inj hTop).symm hRoot
  · exact hLists.congr h.untitled_eq.symm

/-- A tree holds some tutorials, numbered from one, as the entries of a hierarchy arrange them.
All of them are listed, and each stands once among the children of its parent and nowhere else.
Edges that do not begin at the root are those of an entry. At the top level the tutorials keep
their order, and those that no entry has among its children are there. -/
structure Arranges (entries : List HierarchyEntry) (tutorials : List Tutorial)
    (t : TutorialTree) : Prop where
  exists_title : ∀ {i tutorial}, tutorials[i]? = some tutorial →
    ∃ title, t.tutorial? (i + 1) = some { tutorial with title }
  flatten_perm : t.flatten.Perm (List.range' 1 tutorials.length)
  mem_childrenOf_iff : ∀ {p c}, c ∈ t.childrenOf p ↔ t.parentOf c = some p
  count_childrenOf : ∀ i ∈ t.flatten, ∃ p, t.parentOf i = some p ∧
    ∀ q, (t.childrenOf q).count i = if q = p then 1 else 0
  acyclic : ∀ i, ¬ Relation.TransGen (fun p c => t.parentOf c = some p) i i
  edge : ∀ {p c}, c ∈ t.childrenOf p → p ≠ root → t.ListsNode (Lists entries) p c
  sublist_root : (t.childrenOf root).Sublist (List.range' 1 tutorials.length)
  root_of_unlisted : ∀ {c child}, c ∈ t.flatten → t.name? c = some child →
    (∀ parent, ¬ Lists entries parent child) → c ∈ t.childrenOf root

/-- Entries that can be applied to a top level arrange it. -/
theorem arranges_of_applyAll {entries : List HierarchyEntry} {tutorials : List Tutorial}
    (hApply : applyAll (top tutorials) none entries = some t) : t.Arranges entries tutorials := by
  have hPlace : ∀ entry ∈ entries, (top tutorials).IsPlace (Lists entries) none entry.name := by
    intro _ _ p hp
    contradiction
  have h : Arranged (Lists entries) (top tutorials) t :=
    arranged_applyAll entries (fun _ _ => id) (isRooted_top tutorials) hPlace hApply
  have hForest := h.isRooted.isForest
  have hPerm := h.isRooted.flatten_perm (h.length_nodes.trans (length_nodes_top tutorials))
  constructor
  case exists_title =>
    intro i tutorial hAt
    exact h.exists_title ((tutorial?_top_succ tutorials i).trans hAt)
  case flatten_perm => exact hPerm
  case mem_childrenOf_iff => exact hForest.mem_childrenOf_iff
  case count_childrenOf =>
    intro i hi
    obtain ⟨p, hp⟩ := h.isRooted.exists_parentOf hi
    exact ⟨p, hp, hForest.count_childrenOf hp⟩
  case acyclic => exact hForest.not_transGen_self
  case edge => exact fun hMem => h.listsNode_of_top (hForest.mem_childrenOf_iff.1 hMem)
  case sublist_root =>
    have hTop := h.sublist_root
    rwa [childrenOf_top, if_pos rfl] at hTop
  case root_of_unlisted =>
    intro c child hc hName hUnlisted
    obtain ⟨p, hp⟩ := h.isRooted.exists_parentOf hc
    by_cases hRoot : p = root
    · exact hForest.mem_childrenOf_iff.2 (hRoot ▸ hp)
    · obtain ⟨parent, child', -, hName', hLists⟩ := h.listsNode_of_top hp hRoot
      obtain rfl := Option.some.inj (hName.symm.trans hName')
      exact absurd hLists (hUnlisted parent)

/-- Loading a directory loses nothing. The tutorials are the pages among its files, the first
in the order of the paths for every stem, and the entries of the hierarchy arrange them. -/
theorem load_arranges {yaml : Yaml.Loader} {files : FileTree} {directory : Path}
    (h : load yaml files directory = .ok t) :
    ∃ found loaded tutorials, files.walkBelow directory = .ok found ∧
      (found.Pairwise fun a b => a.1.text ≤ b.1.text) ∧
      readFiles yaml files directory = .ok loaded ∧
      List.Forall₂ (IsPageOf files) (firstPages (filePaths found)) tutorials ∧
      (tutorials.map Tutorial.name).Nodup ∧
      t.Arranges (ofEntries loaded.hierarchy) tutorials := by
  obtain ⟨loaded, hRead, hApply⟩ := exists_applyAll_of_load h
  obtain ⟨found, hFound, tutorials, hTop, hPages⟩ := exists_walkBelow_of_readFiles hRead
  have hNames : (tutorials.map Tutorial.name).Nodup := by
    rw [names_eq_stems hPages]
    exact nodup_stems_firstPerStem _
  have hSorted := FileTree.pairwise_walkBelow hFound
  rw [hTop] at hApply
  exact ⟨found, loaded, tutorials, hFound, hSorted, hRead, hPages, hNames,
    arranges_of_applyAll hApply⟩

/-- Four pages and a hierarchy that lists the first one below itself. -/
def nestedFiles : FileTree where
  entries := [(["t"], .directory), (["t", "a.md"], .file (Text.encodeUtf8 "A".toList)),
    (["t", "b.md"], .file (Text.encodeUtf8 "B".toList)),
    (["t", "c.html"], .file (Text.encodeUtf8 "C".toList)),
    (["t", "d.md"], .file (Text.encodeUtf8 "D".toList)),
    (["t", "h.yaml"], .file (Text.encodeUtf8
      "a:\n  children:\n    b:\n      children: [c, a]\n".toList))]
  current := []

theorem walkBelow_nestedFiles : nestedFiles.walkBelow ⟨.here, ["t"]⟩ =
    .ok (nestedFiles.entries.tail.map fun e => (⟨.here, e.1⟩, e.2)) := by
  have hLocate : nestedFiles.locate ⟨.here, ["t"]⟩ = .ok (["t"], some .directory) := rfl
  have hFound : nestedFiles.foundBelow ⟨.here, ["t"]⟩ ["t"] =
      nestedFiles.entries.tail.map fun e => (⟨.here, e.1⟩, e.2) := by
    rw [FileTree.foundBelow, List.mergeSort_of_pairwise]
    · rfl
    · decide +kernel
  have hEnter : ∀ e ∈ nestedFiles.foundBelow ⟨.here, ["t"]⟩ ["t"], FileTree.enter e = .ok () := by
    rw [hFound]
    decide +kernel
  rw [FileTree.walkBelow_eq rfl hLocate hEnter, hFound]

theorem load_arranges_nestedFiles : ∃ t loaded tutorials,
    load Yaml.parse nestedFiles ⟨.here, ["t"]⟩ = .ok t ∧ t.flatten = [1, 4, 2, 3] ∧
      readFiles Yaml.parse nestedFiles ⟨.here, ["t"]⟩ = .ok loaded ∧
      t.Arranges (ofEntries loaded.hierarchy) tutorials := by
  have hFlatten : (load Yaml.parse nestedFiles ⟨.here, ["t"]⟩).toOption.map flatten =
      some [1, 4, 2, 3] := by
    rw [load, readFiles_eq _ walkBelow_nestedFiles]
    decide +kernel
  cases h : load Yaml.parse nestedFiles ⟨.here, ["t"]⟩ with
  | error e =>
    rw [h] at hFlatten
    cases hFlatten
  | ok t =>
    rw [h] at hFlatten
    obtain ⟨_, loaded, tutorials, -, -, hRead, -, -, hArranges⟩ := load_arranges h
    exact ⟨t, loaded, tutorials, rfl, Option.some.inj hFlatten, hRead, hArranges⟩

end TutorialTree

end DocSite

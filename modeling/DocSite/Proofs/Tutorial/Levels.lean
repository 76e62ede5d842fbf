import DocSite.Proofs.Tutorial.Forest
import Mathlib.Data.List.Nodup
import Mathlib.Data.List.Perm.Subperm

/-! The levels of a forest below a node. The queue of a visit holds what is left of one level
and what is known of the next, so nodes are visited level by level. A node is on one level
only, which is the length of its climb to the top; so there are no more nodes on all levels
than in the forest, and the fuel of the visit lasts. -/

namespace DocSite

namespace TutorialTree

variable (t : TutorialTree)

/-- The nodes a number of steps below a node, in the order of their parents. -/
def levelBelow (top : ℕ) : ℕ → List ℕ
  | 0 => [top]
  | k + 1 => (levelBelow top k).flatMap t.childrenOf

/-- The nodes of the first levels below a node, level by level. -/
def levelsBelow (top k : ℕ) : List ℕ := (List.range k).flatMap fun j => t.levelBelow top (j + 1)

/-- The nodes a number of steps below the root, in the order of their parents. -/
def level : ℕ → List ℕ
  | 0 => [root]
  | k + 1 => (level k).flatMap t.childrenOf

/-- The nodes of the first levels below the root, level by level. -/
def levels (k : ℕ) : List ℕ := (List.range k).flatMap fun j => t.level (j + 1)

theorem levelBelow_root (k : ℕ) : t.levelBelow root k = t.level k := by
  induction k with
  | zero => rfl
  | succ k ih => rw [levelBelow, level, ih]

theorem levelsBelow_root (k : ℕ) : t.levelsBelow root k = t.levels k := by
  simp only [levelsBelow, levels, levelBelow_root]

theorem levelBelow_one (top : ℕ) : t.levelBelow top 1 = t.childrenOf top := by simp [levelBelow]

theorem levelsBelow_succ (top k : ℕ) :
    t.levelsBelow top (k + 1) = t.levelsBelow top k ++ t.levelBelow top (k + 1) := by
  simp [levelsBelow, List.range_succ]

/-! ### Visits -/

/-- What visiting waiting nodes in turn lists when no node waits any more. -/
inductive Visits (t : TutorialTree) : List ℕ → List ℕ → Prop
  | done : Visits t [] []
  | next {i : ℕ} {waiting listed : List ℕ}
      (hRest : Visits t (waiting ++ t.childrenOf i) listed) :
      Visits t (i :: waiting) (i :: listed)

variable {t}

/-- What waits first is visited first, and its children come to the end of the queue. -/
theorem Visits.append (nodes waiting : List ℕ) {listed : List ℕ}
    (h : t.Visits (waiting ++ nodes.flatMap t.childrenOf) listed) :
    t.Visits (nodes ++ waiting) (nodes ++ listed) := by
  induction nodes generalizing waiting with
  | nil => simpa using h
  | cons i nodes ih =>
    rw [List.cons_append, List.cons_append]
    refine .next ?_
    rw [List.append_assoc]
    refine ih _ ?_
    rwa [List.append_assoc, ← List.flatMap_cons]

/-- A visit that ends is gone through to its end with fuel for each node listed. -/
theorem Visits.visit_eq {waiting listed : List ℕ} (h : t.Visits waiting listed) {fuel : ℕ}
    (hFuel : listed.length ≤ fuel) : t.visit fuel waiting = listed := by
  induction h generalizing fuel with
  | done => cases fuel <;> rfl
  | next hRest ih =>
    cases fuel with
    | zero => simp at hFuel
    | succ fuel => rw [visit, ih (Nat.le_of_succ_le_succ hFuel)]

/-- If no node is left on some level, a visit from the top ends with the levels before it. -/
theorem visits_levelsBelow {top n : ℕ} (hLast : t.levelBelow top (n + 1) = []) :
    t.Visits (t.childrenOf top) (t.levelsBelow top n) := by
  have hFrom : ∀ k listed, t.Visits (t.levelBelow top (k + 1)) listed →
      t.Visits (t.childrenOf top) (t.levelsBelow top k ++ listed) := by
    intro k
    induction k with
    | zero =>
      intro listed hVisits
      rwa [levelBelow_one] at hVisits
    | succ k ih =>
      intro listed hVisits
      rw [levelsBelow_succ, List.append_assoc]
      refine ih _ ?_
      simpa using Visits.append (t.levelBelow top (k + 1)) [] hVisits
  have hVisits := hFrom n [] (by rw [hLast]; exact .done)
  rwa [List.append_nil] at hVisits

/-! ### Levels of a forest -/

namespace IsForest

variable (h : t.IsForest) (top : ℕ)
include h

/-- A node is on the level that its climb to the top is long. -/
theorem mem_levelBelow_iff (k i : ℕ) : i ∈ t.levelBelow top k ↔ t.climb k i = some top := by
  induction k generalizing i with
  | zero => simp [levelBelow]
  | succ k ih =>
    simp only [levelBelow, List.mem_flatMap, ih, h.mem_childrenOf_iff, climb_succ,
      Option.bind_eq_some_iff]
    exact exists_congr fun p => and_comm

/-- No node is on two levels, since a climb that comes to the top twice would be a loop. -/
theorem disjoint_levelBelow {j k : ℕ} (hLt : j < k) :
    (t.levelBelow top j).Disjoint (t.levelBelow top k) := by
  intro i hj hk
  rw [h.mem_levelBelow_iff] at hj hk
  have hSplit := t.climb_add j (k - j - 1 + 1) i
  rw [show j + (k - j - 1 + 1) = k by omega, hj, hk, Option.bind_some] at hSplit
  exact h.climb_ne_self _ _ hSplit.symm

theorem nodup_levelBelow (k : ℕ) : (t.levelBelow top k).Nodup := by
  induction k with
  | zero => exact List.nodup_singleton top
  | succ k ih =>
    rw [levelBelow, List.nodup_flatMap]
    refine ⟨fun p _ => h.nodup_childrenOf p, ih.imp fun {p q} hNe => ?_⟩
    intro i hp hq
    rw [h.mem_childrenOf_iff] at hp hq
    exact hNe (Option.some.inj (hp.symm.trans hq))

theorem nodup_levelsBelow (k : ℕ) : (t.levelsBelow top k).Nodup := by
  rw [levelsBelow, List.nodup_flatMap]
  refine ⟨fun j _ => h.nodup_levelBelow top (j + 1), ?_⟩
  refine List.pairwise_lt_range.imp fun {j k} hLt => ?_
  exact h.disjoint_levelBelow top (Nat.succ_lt_succ hLt)

theorem mem_levelsBelow_iff (k i : ℕ) :
    i ∈ t.levelsBelow top k ↔ ∃ j < k, t.climb (j + 1) i = some top := by
  simp [levelsBelow, h.mem_levelBelow_iff]

theorem length_levelsBelow_le (k : ℕ) : (t.levelsBelow top k).length ≤ t.nodes.length := by
  have hSubset : t.levelsBelow top k ⊆ List.range t.nodes.length := by
    intro i hi
    obtain ⟨j, -, hClimb⟩ := (h.mem_levelsBelow_iff top k i).1 hi
    obtain ⟨p, hParent, -⟩ := Option.bind_eq_some_iff.1 hClimb
    exact List.mem_range.2 (lt_of_parentOf hParent)
  simpa using (List.subperm_of_subset (h.nodup_levelsBelow top k) hSubset).length_le

/-- There are no nodes on the levels that are farther down than all nodes could reach. -/
theorem levelBelow_eq_nil {k : ℕ} (hk : t.nodes.length < k) : t.levelBelow top k = [] := by
  refine List.eq_nil_iff_forall_not_mem.2 fun i hi => ?_
  have hLe := h.climb_le ((h.mem_levelBelow_iff top k i).1 hi)
  omega

/-- Flattening a forest goes through all levels below the top. -/
theorem flattenFrom_eq : t.flattenFrom top = t.levelsBelow top t.nodes.length :=
  (visits_levelsBelow (h.levelBelow_eq_nil top (Nat.lt_succ_self _))).visit_eq
    (h.length_levelsBelow_le top _)

theorem visits_flattenFrom : t.Visits (t.childrenOf top) (t.flattenFrom top) := by
  rw [h.flattenFrom_eq]
  exact visits_levelsBelow (h.levelBelow_eq_nil top (Nat.lt_succ_self _))

/-- Beyond as many levels as there are nodes, there is nothing to list any more. -/
theorem levelsBelow_eq {k : ℕ} (hk : t.nodes.length ≤ k) :
    t.levelsBelow top k = t.flattenFrom top := by
  induction k, hk using Nat.le_induction with
  | base => exact (h.flattenFrom_eq top).symm
  | succ k hk ih =>
    rw [levelsBelow_succ, h.levelBelow_eq_nil top (Nat.lt_succ_of_le hk), List.append_nil, ih]

theorem nodup_flattenFrom : (t.flattenFrom top).Nodup :=
  h.flattenFrom_eq top ▸ h.nodup_levelsBelow top _

/-- What is listed are the nodes from which a climb comes to the top. -/
theorem mem_flattenFrom_iff (i : ℕ) :
    i ∈ t.flattenFrom top ↔ ∃ k, t.climb (k + 1) i = some top := by
  rw [h.flattenFrom_eq, h.mem_levelsBelow_iff]
  constructor
  · rintro ⟨k, -, hClimb⟩
    exact ⟨k, hClimb⟩
  · rintro ⟨k, hClimb⟩
    exact ⟨k, h.climb_le hClimb, hClimb⟩

omit top

theorem flatten_eq : t.flatten = t.levels t.nodes.length :=
  (h.flattenFrom_eq root).trans (t.levelsBelow_root _)

theorem nodup_flatten : t.flatten.Nodup := h.nodup_flattenFrom root

theorem mem_flatten_iff (i : ℕ) : i ∈ t.flatten ↔ ∃ k, t.climb (k + 1) i = some root :=
  h.mem_flattenFrom_iff root i

end IsForest

end TutorialTree

end DocSite

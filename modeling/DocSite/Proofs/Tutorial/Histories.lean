import DocSite.Proofs.Tutorial.Levels
import Mathlib.Logic.Relation

/-! Histories of tutorials. They all stand apart at first, and then one after the other becomes
the last child of some tutorial, from wherever it is by then, but never of itself or of one
below it. What they come to is a forest after each move, so the queue of a visit that begins at
any of them runs empty, and the visit lists what is below it level by level. -/

namespace DocSite

namespace TutorialTree

variable {t : TutorialTree}

/-! ### Parents -/

/-- Whether a node is the parent of another one. -/
def IsParent (t : TutorialTree) (p c : ℕ) : Prop := t.parentOf c = some p

theorem exists_climb_iff (a i : ℕ) :
    (∃ k, t.climb (k + 1) i = some a) ↔ Relation.TransGen t.IsParent a i := by
  constructor
  · rintro ⟨k, hClimb⟩
    exact transGen_of_climb hClimb
  · intro hAbove
    induction hAbove with
    | single hParent => exact ⟨0, by rw [climb_succ, hParent, Option.bind_some, climb_zero]⟩
    | tail _ hParent ih =>
      obtain ⟨k, hClimb⟩ := ih
      exact ⟨k + 1, by rw [climb_succ, hParent, Option.bind_some, hClimb]⟩

/-- The search for loops finds out whether the child is the parent or above it. -/
theorem IsForest.wouldLoop_iff_reflTransGen (h : t.IsForest) (p c : ℕ) :
    t.wouldLoop p c = true ↔ Relation.ReflTransGen t.IsParent c p := by
  rw [h.wouldLoop_iff, Relation.reflTransGen_iff_eq_or_transGen, ← exists_climb_iff]
  constructor
  · rintro ⟨k, hClimb⟩
    cases k with
    | zero => exact .inl (Option.some.inj hClimb)
    | succ k => exact .inr ⟨k, hClimb⟩
  · rintro (rfl | ⟨k, hClimb⟩)
    · exact ⟨0, climb_zero t p⟩
    · exact ⟨k + 1, hClimb⟩

/-! ### Histories -/

/-- Tutorials that stand apart. -/
def apart (tutorials : List Tutorial) : TutorialTree :=
  ⟨tutorials.map fun tutorial => ⟨tutorial, none, []⟩⟩

/-- What tutorials come to that stand apart at first. A child is added at a time, and it is
neither its new parent nor above it by then. -/
inductive Arises (tutorials : List Tutorial) : TutorialTree → Prop
  | apart : Arises tutorials (apart tutorials)
  | addChild {t : TutorialTree} {parent child : ℕ} (hArises : Arises tutorials t)
      (hParent : parent < tutorials.length) (hChild : child < tutorials.length)
      (hAbove : ¬ Relation.ReflTransGen t.IsParent child parent) :
      Arises tutorials (t.addChild parent child)

variable {tutorials : List Tutorial}

theorem parentOf_apart (i : ℕ) : (apart tutorials).parentOf i = none := by
  rw [parentOf, node?, apart, List.getElem?_map]
  cases tutorials[i]? <;> rfl

theorem childrenOf_apart (i : ℕ) : (apart tutorials).childrenOf i = [] := by
  rw [childrenOf, node?, apart, List.getElem?_map]
  cases tutorials[i]? <;> rfl

theorem isForest_apart : (apart tutorials).IsForest where
  mem_childrenOf_iff := by simp [parentOf_apart, childrenOf_apart]
  nodup_childrenOf i := by simp [childrenOf_apart]
  wellFounded := ⟨fun i => ⟨i, fun p hParent => by simp [parentOf_apart] at hParent⟩⟩

namespace Arises

theorem length_nodes (h : Arises tutorials t) : t.nodes.length = tutorials.length := by
  induction h with
  | apart => exact List.length_map _
  | addChild _ _ _ _ ih => rw [length_nodes_addChild, ih]

/-- Every move is one within a forest, and leaves a forest. -/
theorem isForest (h : Arises tutorials t) : t.IsForest := by
  induction h with
  | apart => exact isForest_apart
  | @addChild t parent child hArises hParent hChild hAbove ih =>
    rw [← hArises.length_nodes] at hParent hChild
    refine ih.addChild hParent hChild (Bool.eq_false_iff.2 fun hLoop => hAbove ?_)
    exact (ih.wouldLoop_iff_reflTransGen parent child).1 hLoop

/-- A move that is allowed as the search for loops finds out. -/
theorem addChild_of_wouldLoop (h : Arises tutorials t) {parent child : ℕ}
    (hParent : parent < tutorials.length) (hChild : child < tutorials.length)
    (hLoop : t.wouldLoop parent child = false) : Arises tutorials (t.addChild parent child) := by
  refine h.addChild hParent hChild fun hAbove => ?_
  rw [(h.isForest.wouldLoop_iff_reflTransGen parent child).2 hAbove] at hLoop
  contradiction

end Arises

/-- Whatever tutorials come to, each stands once among the children of its parent and nowhere
else, and none among any without a parent. A visit from any of them ends, and lists what is
below it once, level by level. -/
theorem flattenFrom_levels (h : Arises tutorials t) :
    (∀ i p, (t.childrenOf p).count i = if t.parentOf i = some p then 1 else 0) ∧
    ∀ top, t.Visits (t.childrenOf top) (t.flattenFrom top) ∧
      (t.flattenFrom top).Nodup ∧
      (∀ i, i ∈ t.flattenFrom top ↔ Relation.TransGen t.IsParent top i) ∧
      ∀ k ≥ tutorials.length, t.flattenFrom top = t.levelsBelow top k := by
  have hForest := h.isForest
  refine ⟨fun i p => ?_, fun top => ⟨hForest.visits_flattenFrom top,
    hForest.nodup_flattenFrom top, fun i => ?_, fun k hk => ?_⟩⟩
  · rw [(hForest.nodup_childrenOf p).count]
    simp only [hForest.mem_childrenOf_iff]
  · rw [hForest.mem_flattenFrom_iff, exists_climb_iff]
  · exact (hForest.levelsBelow_eq top (h.length_nodes.symm ▸ hk)).symm

/-- Five tutorials, each named by its number. -/
def numbered : List Tutorial :=
  (List.range 5).map fun i => ⟨toString i, toString i, "", .html⟩

/-- A chain of four, a move of its second one with all below it, a child that is added where
it is already, and one that moves up. -/
def rearranged : TutorialTree :=
  [(0, 1), (1, 2), (2, 3), (0, 4), (4, 1), (0, 4), (1, 3)].foldl
    (fun t move => t.addChild move.1 move.2) (apart numbered)

theorem flattenFrom_levels_rearranged :
    Arises numbered rearranged ∧ rearranged.flattenFrom root = [4, 1, 2, 3] ∧
      (rearranged.childrenOf 1).count 3 = 1 ∧ (rearranged.childrenOf 2).count 3 = 0 ∧
      rearranged.Visits [4] [4, 1, 2, 3] ∧ Relation.TransGen rearranged.IsParent root 3 := by
  have hArises : Arises numbered rearranged :=
    Arises.apart
      |>.addChild_of_wouldLoop (by decide) (by decide) (by decide)
      |>.addChild_of_wouldLoop (by decide) (by decide) (by decide)
      |>.addChild_of_wouldLoop (by decide) (by decide) (by decide)
      |>.addChild_of_wouldLoop (by decide) (by decide) (by decide)
      |>.addChild_of_wouldLoop (by decide) (by decide) (by decide)
      |>.addChild_of_wouldLoop (by decide) (by decide) (by decide)
      |>.addChild_of_wouldLoop (by decide) (by decide) (by decide)
  obtain ⟨hCount, hLevels⟩ := flattenFrom_levels hArises
  obtain ⟨hVisits, -, hMem, -⟩ := hLevels root
  have hFlat : rearranged.flattenFrom root = [4, 1, 2, 3] := by decide
  refine ⟨hArises, hFlat, (hCount 3 1).trans (by decide), (hCount 3 2).trans (by decide), ?_,
    (hMem 3).1 (by rw [hFlat]; decide)⟩
  rw [hFlat] at hVisits
  exact hVisits

end TutorialTree

end DocSite

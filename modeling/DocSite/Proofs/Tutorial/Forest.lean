import DocSite.Tutorial
import Mathlib.Data.Fintype.Card
import Mathlib.Order.WellFounded

/-! Forests of tutorials. Parents and children are kept twice, as the parent of a node and
as the children of another one, and in a forest the two agree: a node stands once among
the children of its parent, and nowhere else. No node is above itself. Moving a node with
all that is below it preserves this, unless the node is to go below itself, which the climb
from its new parent finds out. -/

namespace DocSite

namespace TutorialTree

variable (t : TutorialTree)

/-! ### Climbing -/

/-- The node that is some number of steps above a node. -/
def climb : ℕ → ℕ → Option ℕ
  | 0, i => some i
  | k + 1, i => (t.parentOf i).bind (climb k)

@[simp] theorem climb_zero (i : ℕ) : t.climb 0 i = some i := rfl

theorem climb_succ (k i : ℕ) : t.climb (k + 1) i = (t.parentOf i).bind (t.climb k) := rfl

theorem climb_add (j k i : ℕ) : t.climb (j + k) i = (t.climb j i).bind (t.climb k) := by
  induction j generalizing i with
  | zero => simp
  | succ j ih =>
    rw [Nat.succ_add, climb_succ, climb_succ]
    cases t.parentOf i with
    | none => rfl
    | some p => exact ih p

/-- The search for a node goes through all nodes above another one, as far as its fuel lasts. -/
theorem isWithin_iff (a fuel i : ℕ) :
    t.isWithin a fuel i = true ↔ ∃ k < fuel, t.climb k i = some a := by
  induction fuel generalizing i with
  | zero => simp [isWithin]
  | succ fuel ih =>
    have hAbove : (t.parentOf i).any (t.isWithin a fuel) = true ↔
        ∃ k < fuel, t.climb (k + 1) i = some a := by
      cases hParent : t.parentOf i with
      | none => simp [climb_succ, hParent]
      | some p => simp [climb_succ, hParent, ih]
    rw [isWithin, Bool.or_eq_true, beq_iff_eq, hAbove]
    constructor
    · rintro (rfl | ⟨k, hk, hClimb⟩)
      · exact ⟨0, by omega, rfl⟩
      · exact ⟨k + 1, by omega, hClimb⟩
    · rintro ⟨k, hk, hClimb⟩
      cases k with
      | zero => exact .inl (Option.some.inj hClimb)
      | succ k => exact .inr ⟨k, by omega, hClimb⟩

/-! ### Forests -/

/-- Parents and children agree, and no node is above itself. -/
structure IsForest (t : TutorialTree) : Prop where
  mem_childrenOf_iff : ∀ {p c}, c ∈ t.childrenOf p ↔ t.parentOf c = some p
  nodup_childrenOf : ∀ p, (t.childrenOf p).Nodup
  wellFounded : WellFounded fun p c => t.parentOf c = some p

variable {t} {t' : TutorialTree}

theorem lt_of_parentOf {i p : ℕ} (h : t.parentOf i = some p) : i < t.nodes.length := by
  obtain ⟨n, hNode, -⟩ := Option.bind_eq_some_iff.1 h
  exact (List.getElem?_eq_some_iff.1 hNode).1

theorem lt_of_mem_childrenOf {p c : ℕ} (h : c ∈ t.childrenOf p) : p < t.nodes.length := by
  cases hNode : t.node? p with
  | none => simp [childrenOf, hNode] at h
  | some n => exact (List.getElem?_eq_some_iff.1 hNode).1

/-- What makes a forest depends on parents and children only. -/
theorem IsForest.congr (h : t.IsForest) (hParent : ∀ i, t'.parentOf i = t.parentOf i)
    (hChildren : ∀ i, t'.childrenOf i = t.childrenOf i) : t'.IsForest where
  mem_childrenOf_iff := by
    intro p c
    rw [hParent, hChildren]
    exact h.mem_childrenOf_iff
  nodup_childrenOf p := hChildren p ▸ h.nodup_childrenOf p
  wellFounded := by
    simp only [hParent]
    exact h.wellFounded

/-- A climb leads upwards, one parent after the other. -/
theorem transGen_of_climb {k i a : ℕ} (hClimb : t.climb (k + 1) i = some a) :
    Relation.TransGen (fun p c => t.parentOf c = some p) a i := by
  induction k generalizing i with
  | zero =>
    obtain ⟨p, hParent, hEq⟩ := Option.bind_eq_some_iff.1 hClimb
    exact .single (Option.some.inj hEq ▸ hParent)
  | succ k ih =>
    obtain ⟨p, hParent, hNext⟩ := Option.bind_eq_some_iff.1 hClimb
    exact (ih hNext).tail hParent

namespace IsForest
variable (h : t.IsForest)
include h

theorem parent_lt {i p : ℕ} (hParent : t.parentOf i = some p) : p < t.nodes.length :=
  lt_of_mem_childrenOf (h.mem_childrenOf_iff.2 hParent)

/-- A node is among the children of its parent once, and among no others. -/
theorem count_childrenOf {i p : ℕ} (hParent : t.parentOf i = some p) (q : ℕ) :
    (t.childrenOf q).count i = if q = p then 1 else 0 := by
  rw [(h.nodup_childrenOf q).count]
  simp [h.mem_childrenOf_iff, hParent, eq_comm]

/-- No node is above itself. -/
theorem not_transGen_self (i : ℕ) :
    ¬ Relation.TransGen (fun p c => t.parentOf c = some p) i i :=
  h.wellFounded.transGen.irrefl.irrefl i

theorem climb_ne_self (k i : ℕ) : t.climb (k + 1) i ≠ some i :=
  fun hClimb => h.not_transGen_self i (transGen_of_climb hClimb)

/-- A climb ends after at most as many steps as there are nodes, since it comes to each once. -/
theorem climb_le {k i a : ℕ} (hClimb : t.climb k i = some a) : k ≤ t.nodes.length := by
  let f : ℕ → ℕ := fun j => (t.climb j i).getD 0
  have hAt : ∀ j ≤ k, t.climb j i = some (f j) := by
    intro j hj
    have hSplit := t.climb_add j (k - j) i
    rw [Nat.add_sub_cancel' hj, hClimb] at hSplit
    obtain ⟨b, hb, -⟩ := Option.bind_eq_some_iff.1 hSplit.symm
    simp [f, hb]
  have hFrom : ∀ j j', j ≤ j' → j' ≤ k → t.climb (j' - j) (f j) = some (f j') := by
    intro j j' hj hj'
    have hSplit := t.climb_add j (j' - j) i
    rwa [Nat.add_sub_cancel' hj, hAt j' hj', hAt j (hj.trans hj'), Option.bind_some, eq_comm]
      at hSplit
  have hLt : ∀ j < k, f j < t.nodes.length := by
    intro j hj
    have hNext := hFrom j (j + 1) (Nat.le_succ j) hj
    rw [Nat.add_sub_cancel_left, climb_succ] at hNext
    obtain ⟨p, hParent, -⟩ := Option.bind_eq_some_iff.1 hNext
    exact lt_of_parentOf hParent
  -- two equal nodes on the way would be a climb from one of them to itself
  have hNe : ∀ j j', j < j' → j' ≤ k → f j ≠ f j' := by
    intro j j' hj hj' hEq
    have hLoop := hFrom j j' hj.le hj'
    rw [← hEq, show j' - j = (j' - j - 1) + 1 by omega] at hLoop
    exact h.climb_ne_self _ _ hLoop
  have hInjective : Function.Injective fun j : Fin k =>
      (⟨f j, hLt j j.isLt⟩ : Fin t.nodes.length) := by
    intro j j' hEq
    have hSame : f j = f j' := congrArg Fin.val hEq
    rcases Nat.lt_trichotomy j j' with hj | hj | hj
    · exact absurd hSame (hNe j j' hj j'.isLt.le)
    · exact Fin.ext hj
    · exact absurd hSame.symm (hNe j' j hj j.isLt.le)
  simpa using Fintype.card_le_of_injective _ hInjective

/-- The search for loops goes far enough. -/
theorem wouldLoop_iff (p c : ℕ) : t.wouldLoop p c = true ↔ ∃ k, t.climb k p = some c := by
  rw [wouldLoop, isWithin_iff]
  constructor
  · rintro ⟨k, -, hClimb⟩
    exact ⟨k, hClimb⟩
  · rintro ⟨k, hClimb⟩
    exact ⟨k, Nat.lt_succ_of_le (h.climb_le hClimb), hClimb⟩

end IsForest

/-! ### Changes of one node -/

section Update
variable (t) (i : ℕ) (f : TutorialNode → TutorialNode)

theorem node?_update (j : ℕ) :
    (t.update i f).node? j = if i = j then (t.node? j).map f else t.node? j := by
  rw [node?, update, List.getElem?_modify, node?]
  split <;> simp

theorem parentOf_update (j : ℕ) : (t.update i f).parentOf j =
    if i = j then (t.node? j).bind fun n => (f n).parent else t.parentOf j := by
  rw [parentOf, node?_update]
  split
  · rw [Option.bind_map]
    rfl
  · rfl

theorem childrenOf_update (j : ℕ) : (t.update i f).childrenOf j =
    if i = j then ((t.node? j).map fun n => (f n).children).getD [] else t.childrenOf j := by
  rw [childrenOf, node?_update]
  split
  · rw [Option.map_map]
    rfl
  · rfl

theorem parentOf_update_of_eq {f : TutorialNode → TutorialNode}
    (hf : ∀ n, (f n).parent = n.parent) (j : ℕ) : (t.update i f).parentOf j = t.parentOf j := by
  rw [parentOf_update]
  split
  · simp only [hf, parentOf]
  · rfl

theorem childrenOf_update_of_eq {f : TutorialNode → TutorialNode}
    (hf : ∀ n, (f n).children = n.children) (j : ℕ) :
    (t.update i f).childrenOf j = t.childrenOf j := by
  rw [childrenOf_update]
  split
  · simp only [hf, childrenOf]
  · rfl

end Update

/-! ### Moves -/

section Move
variable (t) (parent child : ℕ)

@[simp] theorem length_nodes_detach : (t.detach child).nodes.length = t.nodes.length := by
  unfold detach
  split <;> simp

@[simp] theorem length_nodes_addChild :
    (t.addChild parent child).nodes.length = t.nodes.length := by
  simp [addChild]

theorem parentOf_detach (i : ℕ) : (t.detach child).parentOf i = t.parentOf i := by
  unfold detach
  split
  · refine parentOf_update_of_eq t _ ?_ i
    exact fun _ => rfl
  · rfl

/-- Only the child has another parent after a move. -/
theorem parentOf_addChild {child : ℕ} (hChild : child < t.nodes.length) (i : ℕ) :
    (t.addChild parent child).parentOf i = if i = child then some parent else t.parentOf i := by
  have hPlaced : (t.addChild parent child).parentOf i =
      ((t.detach child).update child fun n => { n with parent := some parent }).parentOf i := by
    refine parentOf_update_of_eq _ _ ?_ i
    exact fun _ => rfl
  rw [hPlaced, parentOf_update]
  by_cases hSame : child = i
  · subst hSame
    have hNode : ((t.detach child).node? child).isSome := by simpa [node?] using hChild
    obtain ⟨n, hNode⟩ := Option.isSome_iff_exists.1 hNode
    simp [hNode]
  · rw [if_neg hSame, if_neg (Ne.symm hSame), parentOf_detach]

/-- In a forest a node is taken from the only list of children that it is in. -/
theorem IsForest.childrenOf_detach {t : TutorialTree} (h : t.IsForest) (q : ℕ) :
    (t.detach child).childrenOf q = (t.childrenOf q).erase child := by
  have hNot : t.parentOf child ≠ some q → (t.childrenOf q).erase child = t.childrenOf q :=
    fun hNe => List.erase_of_not_mem (mt h.mem_childrenOf_iff.1 hNe)
  unfold detach
  cases hParent : t.parentOf child with
  | none => exact (hNot (by simp [hParent])).symm
  | some p =>
    dsimp only
    rw [childrenOf_update]
    by_cases hSame : p = q
    · subst hSame
      rw [if_pos rfl, childrenOf]
      cases t.node? p <;> simp
    · rw [if_neg hSame, hNot (by simpa [hParent] using hSame)]

/-- In a forest a move takes a node from where it is and puts it behind the children of its
new parent. -/
theorem IsForest.childrenOf_addChild {t : TutorialTree} (h : t.IsForest) {parent : ℕ}
    (hParent : parent < t.nodes.length) (q : ℕ) : (t.addChild parent child).childrenOf q =
      (t.childrenOf q).erase child ++ if q = parent then [child] else [] := by
  let moved := (t.detach child).update child fun n => { n with parent := some parent }
  have hMoved : moved.childrenOf q = (t.childrenOf q).erase child := by
    rw [← h.childrenOf_detach]
    refine childrenOf_update_of_eq _ _ ?_ q
    exact fun _ => rfl
  have hNode : (moved.node? parent).isSome := by simpa [moved, node?] using hParent
  change (moved.update parent fun n => { n with children := n.children ++ [child] }).childrenOf q = _
  rw [childrenOf_update, ← hMoved]
  by_cases hSame : parent = q
  · subst hSame
    obtain ⟨n, hNode⟩ := Option.isSome_iff_exists.1 hNode
    simp [childrenOf, hNode]
  · rw [if_neg hSame, if_neg (Ne.symm hSame), List.append_nil]

variable {parent child}

/-- A node that does not come to stand below itself can be moved: no other one does then. -/
theorem IsForest.wellFounded_addChild {t : TutorialTree} (h : t.IsForest)
    (hChild : child < t.nodes.length) (hLoop : t.wouldLoop parent child = false) :
    WellFounded fun p c => (t.addChild parent child).parentOf c = some p := by
  have hOther : ∀ {i p}, i ≠ child → (t.addChild parent child).parentOf i = some p →
      t.parentOf i = some p := by
    intro i p hi hParent
    rwa [parentOf_addChild t parent hChild, if_neg hi] at hParent
  -- a node that the child is not above keeps all its ancestors
  have hApart : ∀ i, (∀ k, t.climb k i ≠ some child) →
      Acc (fun p c => (t.addChild parent child).parentOf c = some p) i := by
    intro i
    induction i using h.wellFounded.induction with
    | _ i ih =>
      intro hClimb
      have hi : i ≠ child := fun hEq => hClimb 0 (congrArg some hEq)
      refine ⟨_, fun p hParent => ?_⟩
      have hOld := hOther hi hParent
      refine ih p hOld fun k hk => hClimb (k + 1) ?_
      rw [climb_succ, hOld, Option.bind_some, hk]
  have hNew : Acc (fun p c => (t.addChild parent child).parentOf c = some p) parent := by
    refine hApart parent fun k hClimb => ?_
    rw [(h.wouldLoop_iff parent child).2 ⟨k, hClimb⟩] at hLoop
    contradiction
  refine ⟨fun i => ?_⟩
  induction i using h.wellFounded.induction with
  | _ i ih =>
    refine ⟨_, fun p hParent => ?_⟩
    by_cases hi : i = child
    · rw [parentOf_addChild t parent hChild, if_pos hi] at hParent
      exact Option.some.inj hParent ▸ hNew
    · exact ih p (hOther hi hParent)

/-- A move within a forest gives a forest. -/
theorem IsForest.addChild {t : TutorialTree} (h : t.IsForest) (hParent : parent < t.nodes.length)
    (hChild : child < t.nodes.length) (hLoop : t.wouldLoop parent child = false) :
    (t.addChild parent child).IsForest := by
  constructor
  case mem_childrenOf_iff =>
    intro p c
    rw [h.childrenOf_addChild child hParent, parentOf_addChild t parent hChild, List.mem_append,
      (h.nodup_childrenOf p).mem_erase_iff, h.mem_childrenOf_iff]
    by_cases hc : c = child
    · by_cases hp : p = parent
      · simp [hc, hp]
      · simp [hc, hp, Ne.symm hp]
    · by_cases hp : p = parent <;> simp [hc, hp]
  case nodup_childrenOf =>
    intro p
    rw [h.childrenOf_addChild child hParent]
    have hErased := (h.nodup_childrenOf p).erase child
    split
    · refine hErased.append (List.nodup_singleton child) ?_
      rw [List.disjoint_singleton]
      exact fun hMem => ((h.nodup_childrenOf p).mem_erase_iff.1 hMem).1 rfl
    · rwa [List.append_nil]
  case wellFounded => exact h.wellFounded_addChild hChild hLoop

end Move

end TutorialTree

end DocSite

import DocSite.Link.Registry
import Mathlib.Data.List.Nodup
import Mathlib.Data.List.Perm.Subperm

/-! The search for a free name. The candidates for a base are the base with more
and more underscores at its end. Lower-casing leaves the underscores alone, although
the case of a sigma depends on its neighbours, so the keys of the candidates grow
one sign at a time and are pairwise different. Among one more candidates than there
are taken keys one is therefore free, and the search ends at the first such. -/

namespace DocSite

namespace Text

theorem nextIsCased_append_underscore (cs : List Char) :
    nextIsCased (cs ++ ['_']) = nextIsCased cs := by
  have hIgnorable : isCaseIgnorable '_' = false := by decide +kernel
  have hCased : isCased '_' = false := by decide +kernel
  induction cs with
  | nil => simp [nextIsCased, hIgnorable, hCased]
  | cons c cs ih =>
    by_cases hc : isCaseIgnorable c
    · simpa [nextIsCased, hc] using ih
    · simp [nextIsCased, hc]

theorem lowerAfter_append_underscore (before cs : List Char) :
    lowerAfter before (cs ++ ['_']) = lowerAfter before cs ++ ['_'] := by
  induction cs generalizing before with
  | nil => simpa using lowerAfter_underscore before
  | cons c cs ih =>
    simp only [List.cons_append, lowerAfter, ih, nextIsCased_append_underscore]
    split_ifs <;> rfl

/-- An underscore at the end is kept, and does not change the letters before it. -/
theorem lower_append_underscore (s : String) : lower (s ++ "_") = lower s ++ "_" := by
  simp [lower, lowerAfter_append_underscore]

end Text

/-- A base with `k` underscores at its end. -/
def underscored (base : String) : ℕ → String
  | 0 => base
  | k + 1 => underscored base k ++ "_"

theorem underscored_append_underscore (base : String) (k : ℕ) :
    underscored (base ++ "_") k = underscored base (k + 1) := by
  induction k with
  | zero => rfl
  | succ k ih => rw [underscored, ih]; rfl

theorem toList_underscored (base : String) (k : ℕ) :
    (underscored base k).toList = base.toList ++ List.replicate k '_' := by
  induction k with
  | zero => simp [underscored]
  | succ k ih => simp [underscored, ih, List.replicate_succ']

theorem length_underscored (base : String) (k : ℕ) :
    (underscored base k).length = base.length + k := by
  rw [← String.length_toList, toList_underscored, List.length_append, String.length_toList,
    List.length_replicate]

theorem lower_underscored (base : String) (k : ℕ) :
    Text.lower (underscored base k) = underscored (Text.lower base) k := by
  induction k with
  | zero => rfl
  | succ k ih => rw [underscored, Text.lower_append_underscore, ih, underscored]

theorem lower_underscored_injective (base : String) :
    Function.Injective fun k => Text.lower (underscored base k) := by
  intro j k h
  have hLength := congrArg String.length h
  simp only [lower_underscored, length_underscored] at hLength
  omega

/-- The search stops after `k` underscores: all shorter candidates are taken, and
either this one is free or the fuel is used up. -/
theorem firstFree_eq_underscored (taken : List String) (base : String) (fuel : ℕ) :
    ∃ k ≤ fuel, firstFree taken base fuel = underscored base k ∧
      (∀ j < k, Text.lower (underscored base j) ∈ taken) ∧
      (k < fuel → Text.lower (underscored base k) ∉ taken) := by
  induction fuel generalizing base with
  | zero => exact ⟨0, Nat.le_refl 0, rfl, by simp, by simp⟩
  | succ fuel ih =>
    rw [firstFree]
    split
    next hTaken =>
      obtain ⟨k, hk, hEq, hShorter, hFree⟩ := ih (base ++ "_")
      simp only [underscored_append_underscore] at hEq hShorter hFree
      refine ⟨k + 1, by omega, hEq, ?_, fun hlt => hFree (by omega)⟩
      intro j hj
      cases j with
      | zero => simpa [underscored] using hTaken
      | succ j => exact hShorter j (by omega)
    next hTaken => exact ⟨0, by omega, rfl, by simp, fun _ => by simpa [underscored] using hTaken⟩

/-- Not all of the first `taken.length + 1` candidates are taken. -/
theorem exists_underscored_not_mem (taken : List String) (base : String) :
    ∃ k ≤ taken.length, Text.lower (underscored base k) ∉ taken := by
  by_contra hAll
  push Not at hAll
  let keys := (List.range (taken.length + 1)).map fun k => Text.lower (underscored base k)
  have hNodup : keys.Nodup := List.nodup_range.map (lower_underscored_injective base)
  have hSubset : keys ⊆ taken := by
    intro key hKey
    obtain ⟨k, hk, rfl⟩ := List.mem_map.1 hKey
    exact hAll k (by simp only [List.mem_range] at hk; omega)
  have hLength := (List.subperm_of_subset hNodup hSubset).length_le
  simp only [keys, List.length_map, List.length_range] at hLength
  omega

/-- The search ends: a free name is the base with the fewest underscores behind it
that make its key free. -/
theorem freeName_eq_underscored (taken : List String) (base : String) :
    ∃ k ≤ taken.length, freeName taken base = underscored base k ∧
      Text.lower (underscored base k) ∉ taken ∧
      ∀ j < k, Text.lower (underscored base j) ∈ taken := by
  obtain ⟨k, hk, hEq, hShorter, hFree⟩ := firstFree_eq_underscored taken base taken.length
  refine ⟨k, hk, hEq, ?_, hShorter⟩
  rcases Nat.lt_or_eq_of_le hk with hlt | rfl
  · exact hFree hlt
  -- with the fuel used up, the free candidate that must exist can only be the last
  · obtain ⟨j, hj, hNot⟩ := exists_underscored_not_mem taken base
    rcases Nat.lt_or_eq_of_le hj with hlt | rfl
    · exact absurd (hShorter j hlt) hNot
    · exact hNot

theorem lower_freeName_not_mem (taken : List String) (base : String) :
    Text.lower (freeName taken base) ∉ taken := by
  obtain ⟨k, -, hEq, hNot, -⟩ := freeName_eq_underscored taken base
  rwa [hEq]

end DocSite

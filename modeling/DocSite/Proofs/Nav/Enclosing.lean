import DocSite.Proofs.Longname.Cuts

/-! The longnames that enclose a longname. They stand in the order of their lengths, so none
comes twice, and a last name behind a joint does not begin with a sign that joins. -/

namespace DocSite

namespace Longname

/-- The longnames that a longname stands behind, outermost first. -/
def pathOf (longname : String) : List String :=
  (joints (splitVariation longname.toList).1).map fun joint => .ofList joint.before

theorem enclosing_eq (longname : String) : enclosing longname = pathOf longname ++ [longname] := rfl

/-- A longname at its last joint: it has none, or it stands behind another one, and its last
name does not begin with a sign that joins. -/
theorem shorten_cases (longname : String) :
    pathOf longname = [] ∧ (shorten longname).memberof = "" ∧ (shorten longname).scope = none ∨
      ∃ scope, (pathOf longname).getLast? = some (shorten longname).memberof ∧
        (shorten longname).scope = some scope ∧
        ∀ c rest, (shorten longname).name.toList = c :: rest → Scope.ofPunctuation? c = none := by
  cases hLast : (joints (splitVariation longname.toList).1).getLast? with
  | none =>
    rw [shorten_of_none hLast, pathOf, List.getLast?_eq_none_iff.1 hLast]
    exact .inl ⟨rfl, rfl, rfl⟩
  | some joint =>
    rw [shorten_of_some hLast, pathOf, List.getLast?_map, hLast]
    refine .inr ⟨joint.scope, rfl, rfl, fun c rest hName => ?_⟩
    rw [String.toList_ofList] at hName
    cases hSign : Scope.ofPunctuation? c with
    | none => rfl
    | some scope =>
      have hOdd : ¬ Even (([] : List Char).count '"') :=
        not_even_count_of_last hLast hName (by simp [hSign])
      exact absurd Even.zero hOdd

theorem memberof_eq (longname : String) :
    (shorten longname).memberof = (pathOf longname).getLast?.getD "" := by
  obtain ⟨hPath, hParent, -⟩ | ⟨scope, hLast, -⟩ := shorten_cases longname
  · rw [hPath, hParent, List.getLast?_nil, Option.getD_none]
  · rw [hLast, Option.getD_some]

theorem ne_empty_of_mem_pathOf {longname parent : String} (h : parent ∈ pathOf longname) :
    parent ≠ "" := by
  obtain ⟨joint, hJoint, rfl⟩ := List.mem_map.1 h
  have hBefore := (length_le_of_mem_jointsFrom hJoint).2
  intro hEmpty
  exact hBefore (by simpa using congrArg String.toList hEmpty)

/-- What stands before a joint is less than the longname. -/
theorem length_lt_of_mem_pathOf {longname parent : String} (h : parent ∈ pathOf longname) :
    parent.length < longname.length := by
  obtain ⟨joint, hJoint, rfl⟩ := List.mem_map.1 h
  have hWhole := congrArg List.length (whole_of_mem_joints hJoint)
  rw [Joint.whole, List.length_append, List.length_cons] at hWhole
  have hBase : (splitVariation longname.toList).1.length ≤ longname.toList.length := by
    rcases splitVariation_cases longname.toList with ⟨hSame, -⟩ | ⟨hCut, -⟩
    · exact Nat.le_of_eq (congrArg List.length hSame).symm
    · have hLength := congrArg List.length hCut
      simp only [List.length_append, List.length_cons, List.length_nil] at hLength
      omega
  rw [String.length_ofList, ← String.length_toList]
  omega

theorem pairwise_enclosing (longname : String) :
    (enclosing longname).Pairwise fun c e => c.length < e.length := by
  rw [enclosing_eq, List.pairwise_append]
  refine ⟨?_, List.pairwise_singleton _ _, fun c hc e he => ?_⟩
  · rw [pathOf, List.pairwise_map]
    exact (pairwise_jointsFrom [] false _).imp fun hLess => by simpa using hLess
  · rw [List.mem_singleton.1 he]
    exact length_lt_of_mem_pathOf hc

theorem nodup_enclosing (longname : String) : (enclosing longname).Nodup :=
  (pairwise_enclosing longname).imp fun hLess hEq => by simp [hEq] at hLess

end Longname

end DocSite

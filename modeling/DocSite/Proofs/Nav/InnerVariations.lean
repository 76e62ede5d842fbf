import DocSite.Proofs.Longname.Cuts
import DocSite.Proofs.Nav.Crowding
import DocSite.Proofs.Nav.Growth

/-! What encloses a longname, by its chain and by its parts. A longname is cut at its joints, of
which those in its own variation are none; but the chain of a longname behind it is cut at them
too. So the chain of a longname is that of what it is a member of, with the longname at its end,
exactly if that has no joint in its variation, and for the nodes of a navigation tree it is the
same: the others are not members of the longname above them. -/

namespace DocSite

namespace Longname

/-! ### Joints in a variation -/

/-- What stands before the joints of a longname, with those in its variation. -/
def wholePath (longname : String) : List String :=
  (joints longname.toList).map fun joint => .ofList joint.before

/-- Whether a longname has a joint in its variation. -/
def HasInnerJoint (longname : String) : Prop :=
  ∃ joint ∈ joints longname.toList,
    (splitVariation longname.toList).1.length ≤ joint.before.length

instance (longname : String) : Decidable (HasInnerJoint longname) :=
  inferInstanceAs (Decidable (∃ joint ∈ joints longname.toList, _))

/-- The path of a longname comes first, and what follows are its joints in the variation. -/
theorem exists_wholePath_eq (longname : String) :
    ∃ inner, wholePath longname = pathOf longname ++ inner ∧
      (HasInnerJoint longname ↔ inner ≠ []) := by
  obtain ⟨rest, hRest⟩ : (splitVariation longname.toList).1 <+: longname.toList := by
    rcases splitVariation_cases longname.toList with ⟨hSame, -⟩ | ⟨hCut, -⟩
    · exact ⟨[], (List.append_nil _).trans hSame.symm⟩
    · refine ⟨'(' :: (splitVariation longname.toList).2 ++ [')'], ?_⟩
      rw [← List.append_assoc, ← hCut]
  obtain ⟨base, hBase⟩ : ∃ base, (splitVariation longname.toList).1 = base := ⟨_, rfl⟩
  have hJoints : joints longname.toList = (joints base).map (·.extend rest) ++
      jointsFrom base.reverse (endsQuoted false base) rest := by
    rw [← hRest, hBase, joints, jointsFrom_append, List.append_nil, joints]
  refine ⟨(jointsFrom base.reverse (endsQuoted false base) rest).map
    fun joint => .ofList joint.before, ?_, ?_⟩
  · rw [wholePath, pathOf, hJoints, hBase, List.map_append, List.map_map]
    rfl
  · rw [HasInnerJoint, hJoints, hBase, ne_eq, List.map_eq_nil_iff]
    constructor
    · rintro ⟨joint, hMem, hLength⟩ hNone
      rw [hNone, List.append_nil] at hMem
      obtain ⟨outer, hOuter, rfl⟩ := List.mem_map.1 hMem
      have hWhole := congrArg List.length (whole_of_mem_joints hOuter)
      rw [Joint.whole, List.length_append, List.length_cons] at hWhole
      rw [Joint.before_extend] at hLength
      omega
    · intro hSome
      obtain ⟨joint, hMem⟩ := List.exists_mem_of_ne_nil _ hSome
      have hLength := (length_le_of_mem_jointsFrom hMem).1
      rw [List.length_reverse] at hLength
      exact ⟨joint, List.mem_append_right _ hMem, hLength⟩

theorem wholePath_eq_iff (longname : String) :
    wholePath longname = pathOf longname ↔ ¬ HasInnerJoint longname := by
  obtain ⟨inner, hEq, hInner⟩ := exists_wholePath_eq longname
  rw [hEq, hInner, not_not, List.append_right_eq_self]

theorem nodup_wholePath (longname : String) : (wholePath longname).Nodup := by
  rw [wholePath, List.Nodup, List.pairwise_map]
  refine (pairwise_jointsFrom [] false _).imp fun hLess hEq => ?_
  rw [String.ofList_injective hEq] at hLess
  omega

theorem ne_empty_of_mem_wholePath {longname c : String} (h : c ∈ wholePath longname) : c ≠ "" := by
  obtain ⟨joint, hJoint, rfl⟩ := List.mem_map.1 h
  have hBefore := (mem_joints_iff.1 hJoint).2.1
  simpa using hBefore

/-! ### Chains -/

/-- In the path of a longname, before a longname stands all that stands before its joints. -/
theorem exists_pathOf_eq {longname c : String} (h : c ∈ pathOf longname) :
    ∃ below, pathOf longname = wholePath c ++ c :: below := by
  obtain ⟨joint, hJoint, rfl⟩ := List.mem_map.1 h
  obtain ⟨hWhole, hBefore, hEven⟩ := mem_joints_iff.1 hJoint
  rw [Joint.whole] at hWhole
  rw [pathOf, ← hWhole, joints_append_sign hBefore hEven, List.map_append, List.map_map,
    List.map_cons, wholePath, String.toList_ofList]
  exact ⟨_, rfl⟩

/-- In a chain, before a longname that does not end it stands all that stands before its joints. -/
theorem eq_wholePath_of_enclosing_eq {longname c : String} {above below : List String}
    (h : enclosing longname = above ++ c :: below) (hBelow : below ≠ []) :
    above = wholePath c := by
  obtain ⟨init, last, rfl⟩ := (List.eq_nil_or_concat' below).resolve_left hBelow
  rw [enclosing_eq, ← List.cons_append, ← List.append_assoc] at h
  obtain ⟨hPath, -⟩ := List.append_inj' h rfl
  have hMem : c ∈ pathOf longname := by
    rw [hPath]
    simp
  obtain ⟨below', hPath'⟩ := exists_pathOf_eq hMem
  have hNodup : (pathOf longname).Nodup :=
    (nodup_enclosing longname).sublist (List.sublist_append_left _ _)
  calc above
    _ = (pathOf longname).takeWhile (· ≠ c) := by
      rw [hPath, NavTree.takeWhile_ne_of_nodup (hPath ▸ hNodup)]
    _ = wholePath c := by
      rw [hPath', NavTree.takeWhile_ne_of_nodup (hPath' ▸ hNodup)]

/-- The path of a longname that is a member ends in what it is a member of. -/
theorem pathOf_eq_of_getLast? {longname parent : String}
    (h : (pathOf longname).getLast? = some parent) :
    pathOf longname = wholePath parent ++ [parent] := by
  obtain ⟨init, hPath⟩ := List.getLast?_eq_some_iff.1 h
  have hChain : enclosing longname = init ++ parent :: [longname] := by
    rw [enclosing_eq, hPath, List.append_assoc]
    rfl
  rw [hPath, eq_wholePath_of_enclosing_eq hChain (List.cons_ne_nil _ _)]

/-- The chain of a longname is that of what it is a member of, and the longname, exactly if no
joint is in the variation of that. -/
theorem enclosing_eq_memberof_iff (longname : String) :
    enclosing longname = (if (shorten longname).memberof = "" then []
        else enclosing (shorten longname).memberof) ++ [longname] ↔
      ¬ HasInnerJoint (shorten longname).memberof := by
  rw [enclosing_eq, List.append_left_inj]
  obtain ⟨hPath, hParent, -⟩ | ⟨-, hLast, -⟩ := shorten_cases longname
  · rw [hPath, hParent, if_pos rfl]
    exact iff_of_true rfl (by decide)
  · rw [if_neg (ne_empty_of_mem_pathOf (List.mem_of_getLast? hLast)), enclosing_eq,
      pathOf_eq_of_getLast? hLast, List.append_left_inj, wholePath_eq_iff]

/-- What a longname is a member of stands before its last joint exactly if none of its joints is
in its variation. -/
theorem memberof_eq_last_iff (c : String) :
    (shorten c).memberof = (wholePath c).getLast?.getD "" ↔ ¬ HasInnerJoint c := by
  obtain ⟨inner, hWhole, hInner⟩ := exists_wholePath_eq c
  have hNodup := nodup_wholePath c
  have hNonempty : ∀ x ∈ wholePath c, x ≠ "" := fun x hx => ne_empty_of_mem_wholePath hx
  rw [memberof_eq, hInner, not_not]
  rw [hWhole] at hNodup hNonempty ⊢
  constructor
  · intro hEq
    -- the last of the inner ones would be on the path as well, or empty
    by_contra hSome
    rw [List.getLast?_append_of_ne_nil _ hSome, List.getLast?_eq_some_getLast hSome,
      Option.getD_some] at hEq
    have hMem := List.getLast_mem hSome
    rw [← hEq] at hMem
    cases hPath : (pathOf c).getLast? with
    | none =>
      rw [hPath, Option.getD_none] at hMem
      exact hNonempty "" (List.mem_append_right _ hMem) rfl
    | some parent =>
      rw [hPath, Option.getD_some] at hMem
      exact (List.nodup_append.1 hNodup).2.2 parent (List.mem_of_getLast? hPath) parent hMem rfl
  · rintro rfl
    rw [List.append_nil]

/-- A longname in a chain is a member of the one above it exactly if it ends the chain or no joint
is in its variation. -/
theorem memberof_eq_above_iff {longname c : String} {above below : List String}
    (h : enclosing longname = above ++ c :: below) :
    (shorten c).memberof = above.getLast?.getD "" ↔ below = [] ∨ ¬ HasInnerJoint c := by
  by_cases hBelow : below = []
  · subst hBelow
    obtain ⟨rfl, hEnd⟩ := List.append_inj' ((enclosing_eq longname).symm.trans h) rfl
    obtain rfl := List.singleton_inj.1 hEnd
    exact iff_of_true (memberof_eq longname) (.inl rfl)
  · rw [or_iff_right hBelow, eq_wholePath_of_enclosing_eq h hBelow, memberof_eq_last_iff]

end Longname

namespace NavTree

/-! ### Nodes of a tree -/

/-- The node under a key of the level behind a path of keys. -/
def nodeAt? (tree : NavTree) (path : List String) (key : String) : Option NavNode :=
  (tree.levelAt? path).bind (Dict.get? · key)

@[simp] theorem nodeAt?_nil (tree : NavTree) (key : String) :
    tree.nodeAt? [] key = tree.get? key := rfl

theorem nodeAt?_empty (path : List String) (key : String) : nodeAt? [] path key = none := by
  cases path <;> rfl

theorem nodeAt?_cons (tree : NavTree) (first : String) (path : List String) (key : String) :
    tree.nodeAt? (first :: path) key =
      nodeAt? (((tree.get? first).map NavNode.children).getD []) path key := by
  cases hFirst : tree.get? first with
  | none =>
    rw [Option.map_none, Option.getD_none, nodeAt?_empty, nodeAt?, levelAt?, hFirst]
    rfl
  | some node =>
    rw [nodeAt?, levelAt?, hFirst]
    rfl

theorem children_grown (c : String) (rest : List String) (old? : Option NavNode) :
    (grown c rest old?).children =
      insertChain ((old?.map NavNode.children).getD []) rest := by
  cases old? <;> rfl

/-- What a node was made for: the longname of a chain at the depth of the node. -/
structure IsMadeFor (chain above below : List String) (node : NavNode) : Prop where
  chain_eq : chain = above ++ node.longname :: below
  memberof_eq : node.memberof = (Longname.shorten node.longname).memberof

/-- A node of a tree in which a chain was filed is an old one, with the names that it had, or it
was made for the longname of the chain at its depth. -/
theorem exists_of_nodeAt?_insertChain {level : NavTree} {chain path : List String} {key : String}
    {node : NavNode} (h : nodeAt? (insertChain level chain) path key = some node) :
    (∃ old, nodeAt? level path key = some old ∧ SameNames old node) ∨
      ∃ above below, IsMadeFor chain above below node ∧ above.length = path.length := by
  induction chain generalizing level path with
  | nil => exact .inl ⟨node, h, .refl node⟩
  | cons c rest ih =>
    rw [insertChain_cons] at h
    cases path with
    | nil =>
      rw [nodeAt?_nil, Dict.get?_put] at h
      split at h
      · next hKey =>
        obtain rfl := Option.some.inj h
        rw [hKey]
        cases hOld : level.get? key with
        | none => exact .inr ⟨[], rest, ⟨rfl, rfl⟩, rfl⟩
        | some old => exact .inl ⟨old, hOld, ⟨rfl, rfl, rfl⟩⟩
      · exact .inl ⟨node, h, .refl node⟩
    | cons first path =>
      rw [nodeAt?_cons, Dict.get?_put] at h
      split at h
      · next hKey =>
        rw [hKey, Option.map_some, Option.getD_some, children_grown] at h
        rcases ih h with hOld | ⟨above, below, hMade, hLength⟩
        · exact .inl (by rwa [nodeAt?_cons])
        · refine .inr ⟨c :: above, below, ⟨?_, hMade.memberof_eq⟩, by simp [hLength]⟩
          rw [hMade.chain_eq, List.cons_append]
      · rw [← nodeAt?_cons] at h
        exact .inl ⟨node, h, .refl node⟩

/-- Every node of a tree was made for a longname in the chain of a given one. -/
theorem exists_of_nodeAt?_ofLongnames {longnames path : List String} {key : String} {node : NavNode}
    (h : nodeAt? (ofLongnames longnames) path key = some node) :
    ∃ longname ∈ longnames, longname ≠ "" ∧ ∃ above below,
      IsMadeFor (Longname.enclosing longname) above below node ∧ above.length = path.length := by
  induction longnames using List.reverseRecOn generalizing node with
  | nil =>
    rw [ofLongnames_nil, nodeAt?_empty] at h
    contradiction
  | append_singleton longnames longname ih =>
    have hOld : ∀ old, nodeAt? (ofLongnames longnames) path key = some old → SameNames old node →
        ∃ other ∈ longnames ++ [longname], other ≠ "" ∧ ∃ above below,
          IsMadeFor (Longname.enclosing other) above below node ∧ above.length = path.length := by
      intro old hNode hSame
      obtain ⟨other, hMem, hNe, above, below, hMade, hLength⟩ := ih hNode
      refine ⟨other, List.mem_append_left _ hMem, hNe, above, below, ⟨?_, ?_⟩, hLength⟩
      · rw [hSame.longname, hMade.chain_eq]
      · rw [hSame.memberof, hSame.longname, hMade.memberof_eq]
    rw [ofLongnames_append, List.foldl_cons, List.foldl_nil] at h
    by_cases hEmpty : longname = ""
    · rw [hEmpty, insert_empty] at h
      exact hOld node h (.refl node)
    · rw [insert, if_neg (by simpa using hEmpty)] at h
      rcases exists_of_nodeAt?_insertChain h with ⟨old, hNode, hSame⟩ | hMade
      · exact hOld old hNode hSame
      · exact ⟨longname, by simp, hEmpty, hMade⟩

/-! ### Main statement -/

/-- The chain of a longname is that of what it is a member of, and the longname, exactly if that
has no joint in its variation; and a node of a tree is a member of the longname above it in the
chain that it was made for exactly if it ends the chain or has no joint in its variation. -/
theorem chains_follow_members_iff (longname : String) (longnames : List String) :
    (Longname.enclosing longname =
        (if (Longname.shorten longname).memberof = "" then []
          else Longname.enclosing (Longname.shorten longname).memberof) ++ [longname] ↔
      ¬ Longname.HasInnerJoint (Longname.shorten longname).memberof) ∧
    ∀ path key node, nodeAt? (ofLongnames longnames) path key = some node →
      ∃ given ∈ longnames, given ≠ "" ∧ ∃ above below,
        Longname.enclosing given = above ++ node.longname :: below ∧
        above.length = path.length ∧
        (node.memberof = above.getLast?.getD "" ↔
          below = [] ∨ ¬ Longname.HasInnerJoint node.longname) := by
  refine ⟨Longname.enclosing_eq_memberof_iff longname, fun path key node hNode => ?_⟩
  obtain ⟨given, hMem, hNe, above, below, hMade, hLength⟩ := exists_of_nodeAt?_ofLongnames hNode
  refine ⟨given, hMem, hNe, above, below, hMade.chain_eq, hLength, ?_⟩
  rw [hMade.memberof_eq]
  exact Longname.memberof_eq_above_iff hMade.chain_eq

/-- A member behind a quoted name and a plain variation, with a joint in its own variation. -/
theorem chains_follow_members_iff_quotedName :
    Longname.enclosing "external:\"a.b\"#c(2)~d(x.y)" =
        Longname.enclosing "external:\"a.b\"#c(2)" ++ ["external:\"a.b\"#c(2)~d(x.y)"] ∧
    ∃ node, nodeAt? (ofLongnames ["external:\"a.b\"#c(2)~d(x.y)"]) ["external:\"a.b\"", "c"] "d" =
        some node ∧ node.memberof = "external:\"a.b\"#c(2)" ∧
      ∃ given ∈ ["external:\"a.b\"#c(2)~d(x.y)"], given ≠ "" ∧ ∃ above below,
        Longname.enclosing given = above ++ node.longname :: below ∧ above.length = 2 ∧
        (node.memberof = above.getLast?.getD "" ↔
          below = [] ∨ ¬ Longname.HasInnerJoint node.longname) := by
  obtain ⟨hChain, hNodes⟩ := chains_follow_members_iff "external:\"a.b\"#c(2)~d(x.y)"
    ["external:\"a.b\"#c(2)~d(x.y)"]
  have hMemberof : (Longname.shorten "external:\"a.b\"#c(2)~d(x.y)").memberof =
      "external:\"a.b\"#c(2)" := by decide +kernel
  have hFound : ((nodeAt? (ofLongnames ["external:\"a.b\"#c(2)~d(x.y)"])
      ["external:\"a.b\"", "c"] "d").map NavNode.memberof) = some "external:\"a.b\"#c(2)" := by
    decide +kernel
  obtain ⟨node, hNode, hParent⟩ := Option.map_eq_some_iff.1 hFound
  rw [hMemberof, if_neg (by decide)] at hChain
  exact ⟨hChain.2 (by decide +kernel), node, hNode, hParent, hNodes _ _ _ hNode⟩

/-- Behind a variation with a joint in it, the chain has a longname that encloses nothing, and the
node below that is no member of it. -/
theorem enclosing_cuts_variation :
    (Longname.shorten "Foo(a.b).c").memberof = "Foo(a.b)" ∧
    Longname.enclosing "Foo(a.b).c" = ["Foo(a", "Foo(a.b)", "Foo(a.b).c"] ∧
    Longname.enclosing "Foo(a.b).c" ≠ Longname.enclosing "Foo(a.b)" ++ ["Foo(a.b).c"] ∧
    (nodeAt? (ofLongnames ["Foo(a.b).c"]) ["Foo(a"] "Foo").map
      (fun node => (node.longname, node.memberof)) = some ("Foo(a.b)", "") := by
  decide +kernel

end NavTree

end DocSite

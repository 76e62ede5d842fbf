import DocSite.Proofs.Doclet.Order
import DocSite.Proofs.Link.WrappedText
import DocSite.Proofs.Nav.Growth
import DocSite.Toc

/-! The table of contents as an image of the navigation tree. Each node has one entry, which
stands below the entry of the node above it, and siblings stand in ascending order of their
keys. The keys of one level are different, so their order is the only one, and the order in
which the nodes were put into the tree does not show. -/

namespace DocSite

/-! ### Trees in another order -/

namespace NavTree

theorem WellKeyed.nodup_keys {level : NavTree} (h : WellKeyed level) : level.keys.Nodup :=
  h [] level rfl

theorem WellKeyed.of_mem {level : NavTree} (h : WellKeyed level) {item : String × NavNode}
    (hMem : item ∈ level) : WellKeyed item.2.children :=
  h.below ((Dict.mem_iff_get? h.nodup_keys).1 hMem)

theorem wellKeyed_of_nodup {level : NavTree} (hKeys : level.keys.Nodup)
    (hBelow : ∀ item ∈ level, WellKeyed item.2.children) : WellKeyed level := by
  rintro (_ | ⟨key, path⟩) below hLevel
  · rwa [← Option.some.inj hLevel]
  · obtain ⟨node, hNode, hPath⟩ := levelAt?_cons_eq_some_iff.1 hLevel
    exact hBelow _ (Dict.mem_of_get? hNode) path below hPath

mutual

/-- Nodes that are the same but for the order of the nodes below them. -/
inductive SameNode : NavNode → NavNode → Prop
  | intro {longname name memberof : String} {children children' : List (String × NavNode)}
      (hChildren : Reordered children children') :
      SameNode ⟨longname, name, memberof, children⟩ ⟨longname, name, memberof, children'⟩

/-- Levels that have the same nodes under the same keys, in any order on each level. -/
inductive Reordered : List (String × NavNode) → List (String × NavNode) → Prop
  | intro {level placed level' : List (String × NavNode)} (hPlaced : InPlace level placed)
      (hOrder : placed.Perm level') : Reordered level level'

/-- Levels that have the same nodes under the same keys, in the same order on this level. -/
inductive InPlace : List (String × NavNode) → List (String × NavNode) → Prop
  | nil : InPlace [] []
  | cons {key : String} {node node' : NavNode} {rest rest' : List (String × NavNode)}
      (hNode : SameNode node node') (hRest : InPlace rest rest') :
      InPlace ((key, node) :: rest) ((key, node') :: rest')

end

end NavTree

open NavTree (WellKeyed Reordered SameNode InPlace)

namespace TocEntry

variable {α : Type} (r : LinkRegistry)

/-! ### The order of siblings -/

/-- Items with different keys, sorted by them. -/
theorem pairwise_mergeSort_keys {items : List (String × α)} (h : (items.map Prod.fst).Nodup) :
    (items.mergeSort fun a b => a.1 ≤ b.1).Pairwise fun a b => a.1 < b.1 := by
  have hStable : SortsStably Prod.fst items (items.mergeSort fun a b => a.1 ≤ b.1) :=
    sortsStably_mergeSort (fun a b => decide_eq_true_iff) items
  have hPerm := List.mergeSort_perm items fun a b => decide (a.1 ≤ b.1)
  have hNe : (items.mergeSort fun a b => a.1 ≤ b.1).Pairwise fun a b => a.1 ≠ b.1 :=
    List.pairwise_map.1 ((hPerm.map Prod.fst).nodup_iff.2 h)
  exact hStable.pairwise.imp₂ (fun a b hLe hNe => lt_of_le_of_ne hLe hNe) hNe

/-- Items with different keys stand in one order, whatever order they came in. -/
theorem ordered_eq_of_perm {items items' : List (String × α)} (h : items.Perm items')
    (hKeys : (items.map Prod.fst).Nodup) : ordered items = ordered items' := by
  have hKeys' : (items'.map Prod.fst).Nodup := (h.map Prod.fst).nodup_iff.1 hKeys
  have hPerm : (items.mergeSort fun a b => a.1 ≤ b.1).Perm
      (items'.mergeSort fun a b => a.1 ≤ b.1) :=
    (List.mergeSort_perm items _).trans (h.trans (List.mergeSort_perm items' _).symm)
  have hEq := hPerm.eq_of_pairwise (fun a b _ _ hLt hGt => absurd hLt (lt_asymm hGt))
    (pairwise_mergeSort_keys hKeys) (pairwise_mergeSort_keys hKeys')
  rw [ordered, ordered, hEq]

theorem ofLevel_eq_map (level : NavTree) :
    ofLevel r level = level.map fun item => (item.1, ofNode r item.2) := by
  induction level with
  | nil => rfl
  | cons item level ih => rw [ofLevel, ih, List.map_cons]

theorem map_fst_ofLevel (level : NavTree) : (ofLevel r level).map Prod.fst = level.keys := by
  rw [ofLevel_eq_map, List.map_map]
  rfl

theorem ordered_ofLevel (level : NavTree) : ordered (ofLevel r level) =
    (level.mergeSort fun a b => a.1 ≤ b.1).map fun item => ofNode r item.2 := by
  have hSort : (level.mergeSort fun a b => a.1 ≤ b.1).map (fun item => (item.1, ofNode r item.2)) =
      (level.map fun item => (item.1, ofNode r item.2)).mergeSort fun a b => a.1 ≤ b.1 :=
    List.map_mergeSort fun _ _ _ _ => rfl
  rw [ordered, ofLevel_eq_map, ← hSort, List.map_map]
  rfl

/-! ### The mirrored tree -/

mutual

/-- An entry that shows a node: its id is the longname, its label a link to the longname under
the name that is displayed for it, and its children mirror those of the node. -/
inductive Shows : TocEntry → NavNode → Prop
  | intro {entry : TocEntry} {node : NavNode} (hId : entry.id = node.longname)
      (hLabel : entry.label =
        r.linkTo node.longname (.plain (Longname.displayName node.longname)) none none)
      (hChildren : Mirrors entry.children node.children) : Shows entry node

/-- Entries that mirror a level: one for each node, in ascending order of the keys. -/
inductive Mirrors : List TocEntry → List (String × NavNode) → Prop
  | intro {entries : List TocEntry} {level sorted : List (String × NavNode)}
      (hPerm : sorted.Perm level) (hAscending : sorted.Pairwise fun a b => a.1 < b.1)
      (hShown : ShowsAll entries sorted) : Mirrors entries level

/-- Entries that show the nodes of a list, one after the other. -/
inductive ShowsAll : List TocEntry → List (String × NavNode) → Prop
  | nil : ShowsAll [] []
  | cons {entry : TocEntry} {key : String} {node : NavNode} {entries : List TocEntry}
      {rest : List (String × NavNode)} (hEntry : Shows entry node)
      (hRest : ShowsAll entries rest) : ShowsAll (entry :: entries) ((key, node) :: rest)

end

theorem showsAll_map {items : List (String × NavNode)}
    (h : ∀ item ∈ items, Shows r (ofNode r item.2) item.2) :
    ShowsAll r (items.map fun item => ofNode r item.2) items := by
  induction items with
  | nil => exact .nil
  | cons item items ih =>
    rw [List.forall_mem_cons] at h
    exact .cons h.1 (ih h.2)

theorem mirrors_ordered {level : NavTree} (hKeys : level.keys.Nodup)
    (h : ∀ item ∈ level, Shows r (ofNode r item.2) item.2) :
    Mirrors r (ordered (ofLevel r level)) level := by
  have hPerm := List.mergeSort_perm level fun a b => decide (a.1 ≤ b.1)
  rw [ordered_ofLevel]
  exact .intro hPerm (pairwise_mergeSort_keys hKeys)
    (showsAll_map r fun item hItem => h item (hPerm.mem_iff.1 hItem))

mutual

theorem shows_ofNode : (node : NavNode) → WellKeyed node.children → Shows r (ofNode r node) node
  | ⟨_, _, _, children⟩, h =>
    .intro rfl rfl (mirrors_ordered r h.nodup_keys
      (shows_of_mem_level children fun _ hItem => h.of_mem hItem))

theorem shows_of_mem_level : (level : List (String × NavNode)) →
    (∀ item ∈ level, WellKeyed item.2.children) →
    ∀ item ∈ level, Shows r (ofNode r item.2) item.2
  | [], _ => nofun
  | (_, node) :: rest, h => List.forall_mem_cons.2
    ⟨shows_ofNode node (h _ List.mem_cons_self),
      shows_of_mem_level rest fun item hItem => h item (List.mem_cons_of_mem _ hItem)⟩

end

theorem mirrors_ofTree {tree : NavTree} (h : WellKeyed tree) : Mirrors r (ofTree r tree) tree :=
  mirrors_ordered r h.nodup_keys (shows_of_mem_level r tree fun _ hItem => h.of_mem hItem)

/-! ### The order of insertion -/

mutual

theorem ofNode_eq_of_sameNode {node node' : NavNode} :
    SameNode node node' → WellKeyed node.children → ofNode r node = ofNode r node'
  | .intro hChildren, h => by
    rw [ofNode, ofNode, ordered_eq_of_reordered hChildren h]

theorem ordered_eq_of_reordered {level level' : List (String × NavNode)} :
    Reordered level level' → WellKeyed level →
      ordered (ofLevel r level) = ordered (ofLevel r level')
  | @Reordered.intro _ placed _ hPlaced hOrder, h => by
    have hSame := ofLevel_eq_of_inPlace hPlaced fun _ hItem => h.of_mem hItem
    have hKeys : ((ofLevel r placed).map Prod.fst).Nodup := by
      rw [← hSame, map_fst_ofLevel]
      exact h.nodup_keys
    rw [hSame]
    refine ordered_eq_of_perm ?_ hKeys
    rw [ofLevel_eq_map, ofLevel_eq_map]
    exact hOrder.map _

theorem ofLevel_eq_of_inPlace {level placed : List (String × NavNode)} :
    InPlace level placed → (∀ item ∈ level, WellKeyed item.2.children) →
      ofLevel r level = ofLevel r placed
  | .nil, _ => rfl
  | .cons hNode hRest, h => by
    rw [ofLevel, ofLevel, ofNode_eq_of_sameNode hNode (h _ List.mem_cons_self),
      ofLevel_eq_of_inPlace hRest fun item hItem => h item (List.mem_cons_of_mem _ hItem)]

end

/-! ### Labels -/

/-- A link shows an anchor if the name leads somewhere, and text otherwise. -/
theorem exists_linkTo_eq_anchor_iff (name text : String) :
    (∃ url label, r.linkTo name (.plain text) none none = anchor url none label) ↔
      (r.urlFor name).isSome ∨ isWebAddress name = true := by
  have hTarget : (r.targetUrl? name).isSome ↔
      (r.urlFor name).isSome ∨ isWebAddress name = true := by
    rw [LinkRegistry.targetUrl?, Option.isSome_or, Bool.or_eq_true, Option.isSome_ite]
  rw [← hTarget, LinkRegistry.linkTo]
  cases r.targetUrl? name with
  | none =>
    refine iff_of_false ?_ (by simp)
    rintro ⟨url, label, hEq⟩
    exact escape_ne_anchor text url label hEq
  | some url => exact iff_of_true ⟨url, .plain text, rfl⟩ rfl

/-- The table of contents mirrors a tree whose levels have different keys. It is the same for
each order in which the nodes may stand. The label of a node is an anchor exactly if the longname
is registered or an address of the web. -/
theorem ofTree_mirrors {tree : NavTree} (h : WellKeyed tree) :
    Mirrors r (ofTree r tree) tree ∧
      (∀ tree', Reordered tree tree' → ofTree r tree' = ofTree r tree) ∧
      ∀ longname,
        (∃ url label, r.linkTo longname (.plain (Longname.displayName longname)) none none =
            anchor url none label) ↔
          (r.urlFor longname).isSome ∨ isWebAddress longname = true :=
  ⟨mirrors_ofTree r h, fun _ hReordered => (ordered_eq_of_reordered r hReordered h).symm,
    fun longname => exists_linkTo_eq_anchor_iff r longname _⟩

/-- Two classes, the second with a static and an inner member of one name, and the same tree with
the siblings of both levels exchanged. -/
theorem ofTree_mirrors_exchangedSiblings :
    let member : NavNode := ⟨"a.x", "x", "a", []⟩
    let inner : NavNode := ⟨"a~x", "x", "a", []⟩
    let last : NavNode := ⟨"b", "b", "", []⟩
    let tree : NavTree := [("b", last), ("a", ⟨"a", "a", "", [("x", member), ("~x", inner)]⟩)]
    let tree' : NavTree := [("a", ⟨"a", "a", "", [("~x", inner), ("x", member)]⟩), ("b", last)]
    WellKeyed tree ∧ Reordered tree tree' ∧ Mirrors .fresh (ofTree .fresh tree) tree ∧
      ofTree .fresh tree' = ofTree .fresh tree := by
  intro member inner last tree tree'
  have hLeaf (longname name memberof : String) :
      SameNode ⟨longname, name, memberof, []⟩ ⟨longname, name, memberof, []⟩ :=
    .intro (.intro .nil .nil)
  have hKeyed : WellKeyed tree := by
    have hChildren : WellKeyed [("x", member), ("~x", inner)] :=
      NavTree.wellKeyed_of_nodup (by decide) (by simp [member, inner, NavTree.wellKeyed_nil])
    refine NavTree.wellKeyed_of_nodup (by decide) ?_
    simp [tree, last, NavTree.wellKeyed_nil, hChildren]
  have hReordered : Reordered tree tree' :=
    .intro (.cons (hLeaf _ _ _) (.cons (.intro (.intro (.cons (hLeaf _ _ _)
      (.cons (hLeaf _ _ _) .nil)) (.swap _ _ _))) .nil)) (.swap _ _ _)
  obtain ⟨hMirrors, hOrder, -⟩ := ofTree_mirrors .fresh hKeyed
  exact ⟨hKeyed, hReordered, hMirrors, hOrder tree' hReordered⟩

end TocEntry

end DocSite

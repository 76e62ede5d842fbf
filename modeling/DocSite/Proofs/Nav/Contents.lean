import DocSite.Proofs.Nav.Crowding
import DocSite.Proofs.Symbol.Finishing
import DocSite.Toc

/-! The table of contents of a finished index. Its entries are the nodes of the navigation tree
in another order, so it lists the longnames that have a page of their own, and those that
enclose them, as the tree does: all of them if none is crowded out. -/

namespace DocSite

namespace TocEntry

mutual

/-- The ids of an entry and of what is below it. -/
def ids : TocEntry → List String
  | ⟨_, id, children⟩ => id :: idsOf children

/-- The ids of all entries of a table. -/
def idsOf : List TocEntry → List String
  | [] => []
  | entry :: rest => ids entry ++ idsOf rest

end

theorem idsOf_eq_flatMap (entries : List TocEntry) : idsOf entries = entries.flatMap ids := by
  induction entries with
  | nil => rfl
  | cons entry entries ih => rw [idsOf, ih, List.flatMap_cons]

/-- The order of the entries does not change what they list. -/
theorem idsOf_ordered (items : List (String × TocEntry)) :
    (idsOf (ordered items)).Perm (items.flatMap fun item => ids item.2) := by
  rw [idsOf_eq_flatMap, ordered, List.flatMap_map]
  exact (List.mergeSort_perm items _).flatMap_right _

mutual

/-- An entry lists what its node holds. -/
theorem ids_ofNode (r : LinkRegistry) :
    (node : NavNode) → (ids (ofNode r node)).Perm (NavTree.nodeNames node)
  | ⟨longname, _, _, children⟩ => by
    rw [ofNode, ids, NavTree.nodeNames]
    exact ((idsOf_ordered _).trans (ids_ofLevel r children)).cons longname

theorem ids_ofLevel (r : LinkRegistry) : (level : List (String × NavNode)) →
    ((ofLevel r level).flatMap fun item => ids item.2).Perm (NavTree.names level)
  | [] => .nil
  | (_, node) :: rest => by
    rw [ofLevel, List.flatMap_cons, NavTree.names]
    exact (ids_ofNode r node).append (ids_ofLevel r rest)

end

/-- The table of contents lists what the tree holds. -/
theorem idsOf_ofTree (r : LinkRegistry) (tree : NavTree) :
    (idsOf (ofTree r tree)).Perm (NavTree.names tree) :=
  (idsOf_ordered _).trans (ids_ofLevel r tree)

end TocEntry

namespace SymbolIndex

/-- The ids of the table of contents. -/
def tocIds (ix : SymbolIndex) : List String :=
  TocEntry.idsOf (TocEntry.ofTree ix.registry ix.navTree)

/-- The tree of layered longnames lists them, and so does the table of contents of a finished
index if the longnames with pages are layered. -/
theorem lists_tocIds (tutorials : List String) (doclets : List Doclet) (registersSources : Bool) :
    (∀ longnames, (∀ longname ∈ longnames, NavTree.IsLayered longname) →
      NavTree.Lists longnames (NavTree.names (NavTree.ofLongnames longnames))) ∧
    ∃ ix, ((empty (.withTutorials tutorials) registersSources).ingest doclets).finalize = .ok ix ∧
      ((∀ longname ∈ ix.outputLongnames, NavTree.IsLayered longname) →
        NavTree.Lists ix.outputLongnames ix.tocIds) := by
  have hOpen := (isOpen_empty (.withTutorials tutorials) registersSources).ingest doclets
  obtain ⟨ix, hFinalize⟩ := hOpen.exists_finalize
  refine ⟨fun longnames => NavTree.lists_names, ix, hFinalize, fun hLayered => ?_⟩
  have hFinishes := finishes_of_finalize hFinalize
  have hTree : ix.navTree = NavTree.ofLongnames ix.outputLongnames := by
    rw [hFinishes.navTree_eq, hFinishes.outputLongnames_eq]
  refine (NavTree.lists_names hLayered).of_perm ?_
  rw [tocIds, ← hTree]
  exact TocEntry.idsOf_ofTree ix.registry ix.navTree

/-- A static and an instance member of one name are listed beside each other. -/
theorem lists_tocIds_two_scopes :
    (∀ longname ∈ ["Foo", "Foo.Bar", "Foo#Bar"], NavTree.IsLayered longname) ∧
    (∀ c ∈ ["Foo", "Foo.Bar", "Foo#Bar"],
      (NavTree.names (NavTree.ofLongnames ["Foo", "Foo.Bar", "Foo#Bar"])).count c = 1) ∧
    ∃ ix, ((empty (.withTutorials []) true).ingest [.bare "class" "Foo" "Foo" none,
        .bare "class" "Foo.Bar" "Bar" (some "Foo"),
        .bare "class" "Foo#Bar" "Bar" (some "Foo")]).finalize = .ok ix ∧
      ix.outputLongnames = ["Foo", "Foo.Bar", "Foo#Bar"] ∧
      ∀ c ∈ ["Foo", "Foo.Bar", "Foo#Bar"], ix.tocIds.count c = 1 := by
  obtain ⟨hTree, ix, hFinalize, hToc⟩ := lists_tocIds [] [.bare "class" "Foo" "Foo" none,
    .bare "class" "Foo.Bar" "Bar" (some "Foo"), .bare "class" "Foo#Bar" "Bar" (some "Foo")] true
  have hOutput : (((empty (.withTutorials []) true).ingest [.bare "class" "Foo" "Foo" none,
        .bare "class" "Foo.Bar" "Bar" (some "Foo"),
        .bare "class" "Foo#Bar" "Bar" (some "Foo")]).finalize.toOption.map outputLongnames) =
      some ["Foo", "Foo.Bar", "Foo#Bar"] := by
    decide +kernel
  rw [hFinalize] at hOutput
  have hOutput := Option.some.inj hOutput
  rw [hOutput] at hToc
  have hLayered : ∀ longname ∈ ["Foo", "Foo.Bar", "Foo#Bar"], NavTree.IsLayered longname := by
    decide +kernel
  have hFree : ∀ c ∈ NavTree.chunks ["Foo", "Foo.Bar", "Foo#Bar"], ¬ NavTree.IsCrowdedOut
      (NavTree.siblings (NavTree.chunks ["Foo", "Foo.Bar", "Foo#Bar"]) c) c := by
    decide +kernel
  have hChunks : ∀ c ∈ ["Foo", "Foo.Bar", "Foo#Bar"],
      c ∈ NavTree.chunks ["Foo", "Foo.Bar", "Foo#Bar"] := by
    decide +kernel
  exact ⟨hLayered, fun c hc => (hTree _ hLayered).all_once_iff.2 hFree c (hChunks c hc),
    ix, hFinalize, hOutput, fun c hc => (hToc hLayered).all_once_iff.2 hFree c (hChunks c hc)⟩

/-- Of two classes that differ by a variation, the second has a page but is not listed. -/
theorem not_listed_variation :
    (NavTree.names (NavTree.ofLongnames ["Foo", "Foo(2)"])).count "Foo(2)" = 0 ∧
    ∃ ix, ((empty (.withTutorials []) true).ingest [.bare "class" "Foo" "Foo" none,
        .bare "class" "Foo(2)" "Foo" none]).finalize = .ok ix ∧
      "Foo(2)" ∈ ix.outputLongnames ∧ ix.tocIds.count "Foo(2)" = 0 := by
  refine ⟨by decide +kernel, ?_⟩
  have hRun : (((empty (.withTutorials []) true).ingest [.bare "class" "Foo" "Foo" none,
        .bare "class" "Foo(2)" "Foo" none]).finalize.toOption.map fun ix =>
      (ix.outputLongnames, NavTree.names ix.navTree)) = some (["Foo", "Foo(2)"], ["Foo"]) := by
    decide +kernel
  obtain ⟨ix, hFinalize, hEq⟩ := Option.map_eq_some_iff.1 hRun
  obtain ⟨hOutput, hNames⟩ := Prod.mk.inj hEq
  refine ⟨ix, eq_ok_of_toOption hFinalize, by simp [hOutput], ?_⟩
  rw [tocIds, (TocEntry.idsOf_ofTree ix.registry ix.navTree).count_eq, hNames]
  decide

end SymbolIndex

end DocSite

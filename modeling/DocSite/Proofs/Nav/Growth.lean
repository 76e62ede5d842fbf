import DocSite.Proofs.Nav.Levels

/-! How a navigation tree grows. Filing a longname adds nodes behind those that stand on a level
and leaves every node where it is, with the names that it has. The key of a longname depends on
nodes that are there only, so the way that a longname was filed by is the way that it is found
by in every later tree, and filing it again changes nothing. -/

namespace DocSite

namespace NavTree

/-! ### Growth -/

/-- The level behind a path of keys. -/
def levelAt? (tree : NavTree) : List String → Option NavTree
  | [] => some tree
  | key :: path => (tree.get? key).bind fun node => levelAt? node.children path

@[simp] theorem levelAt?_nil (tree : NavTree) : tree.levelAt? [] = some tree := rfl

theorem levelAt?_cons_eq_some_iff {tree level : NavTree} {key : String} {path : List String} :
    tree.levelAt? (key :: path) = some level ↔
      ∃ node, tree.get? key = some node ∧ levelAt? node.children path = some level := by
  rw [levelAt?, Option.bind_eq_some_iff]

/-- Whether two nodes have the same names, whatever is below them. -/
structure SameNames (node node' : NavNode) : Prop where
  longname : node'.longname = node.longname
  name : node'.name = node.name
  memberof : node'.memberof = node.memberof

theorem SameNames.refl (node : NavNode) : SameNames node node := ⟨rfl, rfl, rfl⟩

theorem SameNames.trans {a b c : NavNode} (h : SameNames a b) (h' : SameNames b c) :
    SameNames a c :=
  ⟨h'.longname.trans h.longname, h'.name.trans h.name, h'.memberof.trans h.memberof⟩

/-- Whether a level continues another one: the nodes of that one are found under their keys, and
they stand in their order before any further nodes. -/
structure Continues (level level' : NavTree) : Prop where
  keys : level.keys <+: level'.keys
  found : ∀ key node, level.get? key = some node →
    ∃ node', level'.get? key = some node' ∧ SameNames node node'

theorem Continues.refl (level : NavTree) : Continues level level :=
  ⟨List.prefix_rfl, fun _ node h => ⟨node, h, .refl node⟩⟩

theorem Continues.trans {a b c : NavTree} (h : Continues a b) (h' : Continues b c) :
    Continues a c := by
  refine ⟨h.keys.trans h'.keys, fun key node hNode => ?_⟩
  obtain ⟨node', hNode', hSame⟩ := h.found key node hNode
  obtain ⟨node'', hNode'', hSame'⟩ := h'.found key node' hNode'
  exact ⟨node'', hNode'', hSame.trans hSame'⟩

/-- Whether a tree has grown out of another one: every level of that one is continued by the
level behind the same path of keys. -/
def Grows (tree tree' : NavTree) : Prop :=
  ∀ path level, tree.levelAt? path = some level →
    ∃ level', tree'.levelAt? path = some level' ∧ Continues level level'

theorem Grows.refl (tree : NavTree) : Grows tree tree :=
  fun _ level h => ⟨level, h, .refl level⟩

theorem Grows.trans {a b c : NavTree} (h : Grows a b) (h' : Grows b c) : Grows a c := by
  intro path level hLevel
  obtain ⟨level', hLevel', hContinues⟩ := h path level hLevel
  obtain ⟨level'', hLevel'', hContinues'⟩ := h' path level' hLevel'
  exact ⟨level'', hLevel'', hContinues.trans hContinues'⟩

/-- The top level of a tree that grows is continued. -/
theorem Grows.top {tree tree' : NavTree} (h : Grows tree tree') : Continues tree tree' := by
  obtain ⟨level', hLevel', hContinues⟩ := h [] tree rfl
  obtain rfl := Option.some.inj hLevel'
  exact hContinues

/-- Below a node of a tree that grows, the tree of its children grows. -/
theorem Grows.below {tree tree' : NavTree} (h : Grows tree tree') {key : String} {node : NavNode}
    (hNode : tree.get? key = some node) :
    ∃ node', tree'.get? key = some node' ∧ SameNames node node' ∧
      Grows node.children node'.children := by
  obtain ⟨node', hNode', hSame⟩ := h.top.found key node hNode
  refine ⟨node', hNode', hSame, fun path level hLevel => ?_⟩
  obtain ⟨level', hLevel', hContinues⟩ :=
    h (key :: path) level (levelAt?_cons_eq_some_iff.2 ⟨node, hNode, hLevel⟩)
  obtain ⟨found, hFound, hBelow⟩ := levelAt?_cons_eq_some_iff.1 hLevel'
  obtain rfl := Option.some.inj (hNode'.symm.trans hFound)
  exact ⟨level', hBelow, hContinues⟩

/-- A level grows by a node under a new key, or by what grows below the node under a key. -/
theorem grows_put {level : NavTree} {key : String} {node : NavNode}
    (h : ∀ old, level.get? key = some old →
      SameNames old node ∧ Grows old.children node.children) :
    Grows level (level.put key node) := by
  rintro (_ | ⟨other, path⟩) below hBelow
  · obtain rfl := Option.some.inj hBelow
    refine ⟨_, rfl, ?_, fun other old hOld => ?_⟩
    · rw [Dict.keys_put]
      split
      · exact List.prefix_rfl
      · exact List.prefix_append _ _
    · by_cases hKey : key = other
      · subst hKey
        exact ⟨node, Dict.get?_put_self _ _ _, (h old hOld).1⟩
      · exact ⟨old, by rw [Dict.get?_put_ne hKey, hOld], .refl old⟩
  · obtain ⟨old, hOld, hPath⟩ := levelAt?_cons_eq_some_iff.1 hBelow
    by_cases hKey : key = other
    · subst hKey
      obtain ⟨below', hPath', hContinues⟩ := (h old hOld).2 path below hPath
      exact ⟨below', levelAt?_cons_eq_some_iff.2 ⟨node, Dict.get?_put_self _ _ _, hPath'⟩,
        hContinues⟩
    · refine ⟨below, levelAt?_cons_eq_some_iff.2 ⟨old, ?_, hPath⟩, .refl below⟩
      rw [Dict.get?_put_ne hKey, hOld]

theorem grows_insertChain (level : NavTree) (chain : List String) :
    Grows level (insertChain level chain) := by
  induction chain generalizing level with
  | nil => exact .refl level
  | cons c rest ih =>
    rw [insertChain_cons]
    refine grows_put fun old hOld => ?_
    rw [hOld]
    exact ⟨⟨rfl, rfl, rfl⟩, ih old.children⟩

theorem grows_insert (tree : NavTree) (longname : String) : Grows tree (tree.insert longname) := by
  unfold insert
  split
  · exact .refl tree
  · exact grows_insertChain tree _

theorem grows_foldl_insert (tree : NavTree) (longnames : List String) :
    Grows tree (longnames.foldl insert tree) := by
  induction longnames generalizing tree with
  | nil => exact .refl tree
  | cons longname longnames ih => exact (grows_insert tree longname).trans (ih _)

/-! ### Keys of all levels -/

/-- Whether no level of a tree has a key twice, so that every node is found under its key. -/
def WellKeyed (tree : NavTree) : Prop :=
  ∀ path level, tree.levelAt? path = some level → level.keys.Nodup

theorem wellKeyed_nil : WellKeyed [] := by
  rintro (_ | ⟨key, path⟩) level hLevel
  · obtain rfl := Option.some.inj hLevel
    exact List.nodup_nil
  · simp [levelAt?] at hLevel

theorem WellKeyed.below {tree : NavTree} (h : WellKeyed tree) {key : String} {node : NavNode}
    (hNode : tree.get? key = some node) : WellKeyed node.children :=
  fun path level hLevel =>
    h (key :: path) level (levelAt?_cons_eq_some_iff.2 ⟨node, hNode, hLevel⟩)

theorem WellKeyed.put {level : NavTree} (h : WellKeyed level) (key : String) {node : NavNode}
    (hNode : WellKeyed node.children) : WellKeyed (level.put key node) := by
  rintro (_ | ⟨other, path⟩) below hBelow
  · obtain rfl := Option.some.inj hBelow
    exact Dict.nodup_keys_put (h [] level rfl) key node
  · obtain ⟨found, hFound, hPath⟩ := levelAt?_cons_eq_some_iff.1 hBelow
    rw [Dict.get?_put] at hFound
    split at hFound
    · obtain rfl := Option.some.inj hFound
      exact hNode path below hPath
    · exact h.below hFound path below hPath

theorem WellKeyed.insertChain {level : NavTree} (h : WellKeyed level) (chain : List String) :
    WellKeyed (insertChain level chain) := by
  induction chain generalizing level with
  | nil => exact h
  | cons c rest ih =>
    rw [insertChain_cons]
    refine h.put _ ?_
    cases hOld : level.get? (keyFor level (Longname.shorten c)) with
    | none => exact ih wellKeyed_nil
    | some old => exact ih (h.below hOld)

theorem wellKeyed_ofChains (chains : List (List String)) : WellKeyed (ofChains chains) := by
  induction chains using List.reverseRecOn with
  | nil => exact wellKeyed_nil
  | append_singleton chains chain ih =>
    rw [ofChains_append]
    exact ih.insertChain chain

/-! ### The way of a chain -/

/-- Whether a tree has a node for each longname of a chain at the place where it is looked for. -/
def IsFiled (level : NavTree) : List String → Prop
  | [] => True
  | c :: rest => ∃ node, level.get? (keyFor level (Longname.shorten c)) = some node ∧
      IsFiled node.children rest

/-- A key that a node stands under stays the key. -/
theorem Continues.keyFor_eq {level level' : NavTree} (h : Continues level level')
    {parts : Longname.Parts} {node : NavNode}
    (hNode : level.get? (keyFor level parts) = some node) :
    keyFor level' parts = keyFor level parts := by
  cases hHolder : level.get? parts.name with
  | none =>
    rw [keyFor, hHolder] at hNode
    rw [hHolder] at hNode
    contradiction
  | some holder =>
    obtain ⟨holder', hHolder', hSame⟩ := h.found _ _ hHolder
    rw [keyFor, keyFor, hHolder, hHolder']
    simp only [hSame.longname]

theorem IsFiled.of_grows {tree tree' : NavTree} {chain : List String} (h : IsFiled tree chain)
    (hGrows : Grows tree tree') : IsFiled tree' chain := by
  induction chain generalizing tree tree' with
  | nil => trivial
  | cons c rest ih =>
    obtain ⟨node, hNode, hRest⟩ := h
    obtain ⟨node', hNode', -, hBelow⟩ := hGrows.below hNode
    refine ⟨node', ?_, ih hRest hBelow⟩
    rw [hGrows.top.keyFor_eq hNode, hNode']

/-- A new node stands under the key that its longname has from then on. -/
theorem keyFor_put_new {level : NavTree} {c : String} {node : NavNode}
    (h : level.get? (keyFor level (Longname.shorten c)) = none) (hNode : node.longname = c) :
    keyFor (level.put (keyFor level (Longname.shorten c)) node) (Longname.shorten c) =
      keyFor level (Longname.shorten c) := by
  cases hHolder : level.get? (Longname.shorten c).name with
  | none =>
    have hKey : keyFor level (Longname.shorten c) = (Longname.shorten c).name := by
      rw [keyFor, hHolder]
    rw [hKey, keyFor, Dict.get?_put_self]
    simp [hNode]
  | some holder =>
    have hNe : keyFor level (Longname.shorten c) ≠ (Longname.shorten c).name := by
      intro hKey
      rw [hKey, hHolder] at h
      contradiction
    rw [keyFor, Dict.get?_put_ne hNe, hHolder, keyFor, hHolder]

/-- A chain that was filed is found. -/
theorem isFiled_insertChain (level : NavTree) (chain : List String) :
    IsFiled (insertChain level chain) chain := by
  induction chain generalizing level with
  | nil => trivial
  | cons c rest ih =>
    have hGrows := grows_insertChain level (c :: rest)
    rw [insertChain_cons] at hGrows ⊢
    cases hOld : level.get? (keyFor level (Longname.shorten c)) with
    | none =>
      refine ⟨grown c rest none, ?_, ih []⟩
      rw [keyFor_put_new hOld rfl, Dict.get?_put_self]
    | some old =>
      refine ⟨grown c rest (some old), ?_, ih old.children⟩
      rw [hOld] at hGrows
      rw [hGrows.top.keyFor_eq hOld, Dict.get?_put_self]

/-- Filing a chain that is found changes nothing. -/
theorem IsFiled.insertChain_eq {level : NavTree} {chain : List String} (h : IsFiled level chain) :
    insertChain level chain = level := by
  induction chain generalizing level with
  | nil => rfl
  | cons c rest ih =>
    obtain ⟨node, hNode, hRest⟩ := h
    have hSame : grown c rest (some node) = node := by
      rw [grown, ih hRest]
      cases node
      rfl
    rw [insertChain_cons, hNode, hSame, Dict.put_eq_self hNode]

/-- Every longname of a tree is found in it. -/
theorem isFiled_ofLongnames {longnames : List String} {longname : String}
    (hMem : longname ∈ longnames) (hName : longname ≠ "") :
    IsFiled (ofLongnames longnames) (Longname.enclosing longname) := by
  obtain ⟨before, after, rfl⟩ := List.append_of_mem hMem
  rw [ofLongnames_append, List.foldl_cons]
  refine IsFiled.of_grows ?_ (grows_foldl_insert _ after)
  rw [insert, if_neg (by simpa using hName)]
  exact isFiled_insertChain _ _

theorem foldl_insert_eq_self {tree : NavTree} {longnames : List String}
    (h : ∀ longname ∈ longnames, tree.insert longname = tree) :
    longnames.foldl insert tree = tree := by
  induction longnames with
  | nil => rfl
  | cons longname longnames ih =>
    rw [List.foldl_cons, h longname List.mem_cons_self]
    exact ih fun other hOther => h other (List.mem_cons_of_mem _ hOther)

/-! ### Main statement -/

/-- A tree of more longnames has grown out of the tree of the first ones, and it is the same
tree if the further ones are empty or came before. -/
theorem ofLongnames_only_grows (xs ys : List String) :
    WellKeyed (ofLongnames xs) ∧ Grows (ofLongnames xs) (ofLongnames (xs ++ ys)) ∧
      ((∀ y ∈ ys, y = "" ∨ y ∈ xs) → ofLongnames (xs ++ ys) = ofLongnames xs) := by
  have hKeyed : WellKeyed (ofLongnames xs) := by
    rw [ofLongnames_eq]
    exact wellKeyed_ofChains _
  rw [ofLongnames_append]
  refine ⟨hKeyed, grows_foldl_insert _ ys, fun hKnown => ?_⟩
  refine foldl_insert_eq_self fun y hy => ?_
  by_cases hEmpty : y = ""
  · rw [hEmpty, insert_empty]
  · have hFiled := isFiled_ofLongnames ((hKnown y hy).resolve_left hEmpty) hEmpty
    rw [insert, if_neg (by simpa using hEmpty), hFiled.insertChain_eq]

/-- A longname that shares the slot of another one, a longname that is filed under its signed
name, and an empty one change nothing when they come again. -/
theorem ofLongnames_only_grows_sharedSlots :
    (∀ y ∈ ["Foo(2)", "", "Foo#bar"], y = "" ∨ y ∈ ["Foo.bar", "Foo#bar", "Foo(2)", "Foo(2)~x"]) ∧
      ofLongnames (["Foo.bar", "Foo#bar", "Foo(2)", "Foo(2)~x"] ++ ["Foo(2)", "", "Foo#bar"]) =
        ofLongnames ["Foo.bar", "Foo#bar", "Foo(2)", "Foo(2)~x"] :=
  ⟨by decide, (ofLongnames_only_grows _ _).2.2 (by decide)⟩

end NavTree

end DocSite

import DocSite.Proofs.Tutorial.Forest
import DocSite.Tutorial.Hierarchy

/-! Arranging tutorials as a hierarchy says. Every move is checked for loops against the tree
that the moves before it have left, so the tree stays a forest in which every tutorial has a
parent. A tutorial is moved below another one only for an entry that lists it there, and
nothing is moved below the root, so what is left there keeps its order. -/

namespace DocSite

namespace HierarchyEntry

/-- The tutorial that an entry is for. -/
def name : HierarchyEntry → String
  | ⟨name, _, _⟩ => name

/-- Among some entries, at any depth, there is one for a tutorial which has another one among
its children. -/
inductive Lists : List HierarchyEntry → String → String → Prop
  | here {entries children : List HierarchyEntry} {name : String} {title : Option String}
      {entry : HierarchyEntry} (hEntry : ⟨name, title, some children⟩ ∈ entries)
      (hChild : entry ∈ children) : Lists entries name entry.name
  | deeper {entries children : List HierarchyEntry} {name : String} {title : Option String}
      {parent child : String} (hEntry : ⟨name, title, some children⟩ ∈ entries)
      (hBelow : Lists children parent child) : Lists entries parent child

theorem Lists.mono {entries more : List HierarchyEntry} (h : entries ⊆ more)
    {parent child : String} : Lists entries parent child → Lists more parent child
  | .here hEntry hChild => .here (h hEntry) hChild
  | .deeper hEntry hBelow => .deeper (h hEntry) hBelow

end HierarchyEntry

namespace TutorialTree

open HierarchyEntry

variable {t t' t'' : TutorialTree}

/-! ### Tutorials without their titles -/

/-- The tutorials by number, without their titles. -/
def untitled (t : TutorialTree) : List Tutorial := t.nodes.map fun n => { n.tutorial with title := "" }

/-- The name of the tutorial of a number. -/
def name? (t : TutorialTree) (i : ℕ) : Option String := (t.tutorial? i).map Tutorial.name

theorem length_untitled (t : TutorialTree) : t.untitled.length = t.nodes.length := by
  simp [untitled]

theorem getElem?_untitled (t : TutorialTree) (i : ℕ) :
    t.untitled[i]? = (t.tutorial? i).map fun tutorial => { tutorial with title := "" } := by
  simp [tutorial?, node?, untitled, Function.comp_def]

theorem name?_eq (t : TutorialTree) (i : ℕ) : t.name? i = t.untitled[i]?.map Tutorial.name := by
  simp [name?, getElem?_untitled, Function.comp_def]

theorem lt_of_name? {i : ℕ} {name : String} (h : t.name? i = some name) : i < t.nodes.length := by
  rw [name?_eq] at h
  obtain ⟨tutorial, hAt, -⟩ := Option.map_eq_some_iff.1 h
  rw [← length_untitled]
  exact (List.getElem?_eq_some_iff.1 hAt).1

theorem untitled_update (t : TutorialTree) (i : ℕ) {f : TutorialNode → TutorialNode}
    (hf : ∀ n, { (f n).tutorial with title := "" } = { n.tutorial with title := "" }) :
    (t.update i f).untitled = t.untitled := by
  refine List.ext_getElem? fun j => ?_
  rw [untitled, untitled, List.getElem?_map, List.getElem?_map, update, List.getElem?_modify]
  cases t.nodes[j]? with
  | none => rfl
  | some n =>
    by_cases hSame : i = j
    · simp [hSame, hf]
    · simp [hSame]

theorem untitled_addChild (t : TutorialTree) (parent child : ℕ) :
    (t.addChild parent child).untitled = t.untitled := by
  have hDetach : (t.detach child).untitled = t.untitled := by
    unfold detach
    split
    · refine untitled_update _ _ ?_
      exact fun _ => rfl
    · rfl
  rw [addChild, untitled_update, untitled_update, hDetach]
  · exact fun _ => rfl
  · exact fun _ => rfl

/-- The tutorial that is found bears the name, and is not the root. -/
theorem find?_eq_some {name : String} {i : ℕ} (h : t.find? name = some i) :
    i ≠ root ∧ t.name? i = some name := by
  obtain ⟨j, hFind, rfl⟩ := Option.map_eq_some_iff.1 h
  obtain ⟨hLt, hName, -⟩ := List.findIdx?_eq_some_iff_getElem.1 hFind
  refine ⟨Nat.succ_ne_zero j, ?_⟩
  have hNode : t.nodes[j + 1]? = some t.nodes.tail[j] := by
    rw [← List.getElem?_tail, List.getElem?_eq_getElem hLt]
  rw [name?, tutorial?, node?, hNode]
  exact congrArg some (beq_iff_eq.1 hName)

/-! ### Arrangements -/

/-- A forest in which every node but the root has a parent. -/
structure IsRooted (t : TutorialTree) : Prop where
  isForest : t.IsForest
  attached : ∀ i < t.nodes.length, i ≠ root → (t.parentOf i).isSome

/-- The name of one node is listed under that of another one. -/
def ListsNode (listed : String → String → Prop) (t : TutorialTree) (p c : ℕ) : Prop :=
  ∃ parent child, t.name? p = some parent ∧ t.name? c = some child ∧ listed parent child

variable {listed : String → String → Prop}

theorem ListsNode.congr (h : t'.untitled = t.untitled) {p c : ℕ} (hLists : t'.ListsNode listed p c) :
    t.ListsNode listed p c := by
  simpa only [ListsNode, name?_eq, h] using hLists

/-- What arranging does to a tree: it may change titles and parents, but every new parent is a
tutorial under which the child is listed, and the root gets no new children. -/
structure Arranged (listed : String → String → Prop) (t t' : TutorialTree) : Prop where
  isRooted : t'.IsRooted
  untitled_eq : t'.untitled = t.untitled
  edge : ∀ {c p}, t'.parentOf c = some p →
    t.parentOf c = some p ∨ p ≠ root ∧ t.ListsNode listed p c
  sublist_root : (t'.childrenOf root).Sublist (t.childrenOf root)

theorem Arranged.refl (h : t.IsRooted) : Arranged listed t t := ⟨h, rfl, .inl, .refl _⟩

theorem Arranged.trans (h : Arranged listed t t') (h' : Arranged listed t' t'') :
    Arranged listed t t'' where
  isRooted := h'.isRooted
  untitled_eq := h'.untitled_eq.trans h.untitled_eq
  edge hParent := by
    rcases h'.edge hParent with hOld | ⟨hRoot, hLists⟩
    · exact h.edge hOld
    · exact .inr ⟨hRoot, hLists.congr h.untitled_eq⟩
  sublist_root := h'.sublist_root.trans h.sublist_root

theorem Arranged.name? (h : Arranged listed t t') (i : ℕ) : t'.name? i = t.name? i := by
  rw [name?_eq, name?_eq, h.untitled_eq]

theorem Arranged.length_nodes (h : Arranged listed t t') : t'.nodes.length = t.nodes.length := by
  rw [← length_untitled, ← length_untitled, h.untitled_eq]

/-- A tutorial keeps all but its title. -/
theorem Arranged.exists_title (h : Arranged listed t t') {i : ℕ} {tutorial : Tutorial}
    (hAt : t.tutorial? i = some tutorial) :
    ∃ title, t'.tutorial? i = some { tutorial with title } := by
  have hSame : (t'.tutorial? i).map (fun tutorial => { tutorial with title := "" }) =
      (t.tutorial? i).map fun tutorial => { tutorial with title := "" } := by
    rw [← getElem?_untitled, ← getElem?_untitled, h.untitled_eq]
  rw [hAt] at hSame
  obtain ⟨tutorial', hAt', hEq⟩ := Option.map_eq_some_iff.1 hSame
  refine ⟨tutorial'.title, hAt'.trans (congrArg some ?_)⟩
  exact congrArg (fun untitled : Tutorial => { untitled with title := tutorial'.title }) hEq

theorem arranged_retitle (h : t.IsRooted) (i : ℕ) (title? : Option String) :
    Arranged listed t (t.retitle i title?) := by
  cases title? with
  | none => exact .refl h
  | some title =>
    have hParent : ∀ j, (t.retitle i (some title)).parentOf j = t.parentOf j := by
      refine parentOf_update_of_eq t i ?_
      exact fun _ => rfl
    have hChildren : ∀ j, (t.retitle i (some title)).childrenOf j = t.childrenOf j := by
      refine childrenOf_update_of_eq t i ?_
      exact fun _ => rfl
    have hUntitled : (t.retitle i (some title)).untitled = t.untitled := by
      refine untitled_update t i ?_
      exact fun _ => rfl
    constructor
    case isRooted =>
      refine ⟨h.isForest.congr hParent hChildren, fun j hj hRoot => ?_⟩
      rw [← length_untitled, hUntitled, length_untitled] at hj
      rw [hParent]
      exact h.attached j hj hRoot
    case untitled_eq => exact hUntitled
    case edge => exact fun hEdge => .inl (hParent _ ▸ hEdge)
    case sublist_root => rw [hChildren]

/-- A move that makes no loop, to a tutorial that lists the node or to where the node is. -/
theorem arranged_moveTo (h : t.IsRooted) {parent i : ℕ} (hi : i < t.nodes.length)
    (hLoop : t.wouldLoop parent i = false) (hParent : t.parentOf i = some parent ∨
      parent < t.nodes.length ∧ parent ≠ root ∧ t.ListsNode listed parent i) :
    Arranged listed t (t.moveTo parent i) := by
  unfold moveTo
  split
  next => exact .refl h
  next hMoves =>
    obtain ⟨hLt, hRoot, hLists⟩ := hParent.resolve_left (by simpa using hMoves)
    have hNew := parentOf_addChild t parent hi
    constructor
    case isRooted =>
      refine ⟨h.isForest.addChild hLt hi hLoop, fun j hj hj' => ?_⟩
      rw [length_nodes_addChild] at hj
      rw [hNew]
      split
      · rfl
      · exact h.attached j hj hj'
    case untitled_eq => exact t.untitled_addChild parent i
    case edge =>
      intro c p hEdge
      rw [hNew] at hEdge
      split_ifs at hEdge with hSame
      · obtain rfl := Option.some.inj hEdge
        exact .inr ⟨hRoot, hSame ▸ hLists⟩
      · exact .inl hEdge
    case sublist_root =>
      rw [h.isForest.childrenOf_addChild i hLt, if_neg (Ne.symm hRoot), List.append_nil]
      exact List.erase_sublist

/-! ### Entries -/

/-- Where a tutorial may be moved to: to one that lists it, unless it stays where it is. -/
def IsPlace (listed : String → String → Prop) (t : TutorialTree) (parent? : Option ℕ)
    (name : String) : Prop :=
  ∀ p ∈ parent?, p ≠ root ∧ ∃ parent, t.name? p = some parent ∧ listed parent name

/-- An entry is done with after a title and at most one move, or it goes on with its children
below the tutorial that it is for. -/
theorem arranged_or_below (h : t.IsRooted) {parent? : Option ℕ} {name : String}
    {title : Option String} {children : Option (List HierarchyEntry)}
    (hPlace : t.IsPlace listed parent? name)
    (hApply : apply t parent? ⟨name, title, children⟩ = some t') :
    Arranged listed t t' ∨ ∃ entries i t₁, children = some entries ∧ Arranged listed t t₁ ∧
      i ≠ root ∧ t₁.name? i = some name ∧ applyAll t₁ (some i) entries = some t' := by
  rw [apply] at hApply
  cases hFind : t.find? name with
  | none =>
    rw [hFind] at hApply
    exact .inl (Option.some.inj hApply ▸ .refl h)
  | some i =>
    rw [hFind] at hApply
    dsimp only at hApply
    obtain ⟨hRoot, hName⟩ := find?_eq_some hFind
    have hTitled : Arranged listed t (t.retitle i title) := arranged_retitle h i title
    generalize t.retitle i title = t₁ at hApply hTitled
    generalize hParent : parent?.getD ((t₁.parentOf i).getD root) = parent at hApply
    rw [← hTitled.name?] at hName
    split at hApply
    next => exact .inl (Option.some.inj hApply ▸ hTitled)
    next hLoop =>
      have hTo : t₁.parentOf i = some parent ∨
          parent < t₁.nodes.length ∧ parent ≠ root ∧ t₁.ListsNode listed parent i := by
        cases parent? with
        | none =>
          obtain ⟨p, hOld⟩ := Option.isSome_iff_exists.1
            (hTitled.isRooted.attached i (lt_of_name? hName) hRoot)
          rw [hOld, Option.getD_none, Option.getD_some] at hParent
          exact .inl (hParent ▸ hOld)
        | some p =>
          obtain ⟨hNot, a, ha, hListed⟩ := hPlace p rfl
          rw [← hTitled.name?] at ha
          obtain rfl : p = parent := hParent
          exact .inr ⟨lt_of_name? ha, hNot, a, name, ha, hName, hListed⟩
      have hMoved := hTitled.trans (arranged_moveTo hTitled.isRooted (lt_of_name? hName)
        (by simpa using hLoop) hTo)
      cases children with
      | none => contradiction
      | some entries =>
        refine .inr ⟨entries, i, _, rfl, hMoved, hRoot, ?_, hApply⟩
        rw [hMoved.name?, ← hTitled.name?, hName]

mutual

theorem arranged_apply {t t' : TutorialTree} {parent? : Option ℕ} :
    (entry : HierarchyEntry) → (∀ p c, Lists [entry] p c → listed p c) → t.IsRooted →
    t.IsPlace listed parent? entry.name → apply t parent? entry = some t' → Arranged listed t t'
  | ⟨name, title, none⟩, _, h, hPlace, hApply => by
    rcases arranged_or_below h hPlace hApply with hDone | ⟨_, _, _, hNone, -⟩
    · exact hDone
    · contradiction
  | ⟨name, title, some children⟩, hListed, h, hPlace, hApply => by
    rcases arranged_or_below h hPlace hApply with
      hDone | ⟨entries, i, t₁, hSame, hBefore, hRoot, hName, hRest⟩
    · exact hDone
    · obtain rfl := Option.some.inj hSame
      have hBelow : ∀ p c, Lists children p c → listed p c :=
        fun p c hLists => hListed p c (.deeper List.mem_cons_self hLists)
      refine hBefore.trans (arranged_applyAll children hBelow hBefore.isRooted ?_ hRest)
      intro entry hEntry p hp
      obtain rfl := Option.some.inj hp
      exact ⟨hRoot, name, hName, hListed _ _ (.here List.mem_cons_self hEntry)⟩

theorem arranged_applyAll {t t' : TutorialTree} {parent? : Option ℕ} :
    (entries : List HierarchyEntry) → (∀ p c, Lists entries p c → listed p c) → t.IsRooted →
    (∀ entry ∈ entries, t.IsPlace listed parent? entry.name) →
    applyAll t parent? entries = some t' → Arranged listed t t'
  | [], _, h, _, hApply => by
    rw [applyAll] at hApply
    exact Option.some.inj hApply ▸ .refl h
  | entry :: rest, hListed, h, hPlace, hApply => by
    rw [applyAll] at hApply
    split at hApply
    next t₁ hFirst =>
      have hSelf : ∀ p c, Lists [entry] p c → listed p c :=
        fun p c hLists => hListed p c (hLists.mono (by simp))
      have hRest : ∀ p c, Lists rest p c → listed p c :=
        fun p c hLists => hListed p c (hLists.mono (List.subset_cons_self _ _))
      have hBefore := arranged_apply entry hSelf h (hPlace entry List.mem_cons_self) hFirst
      refine hBefore.trans (arranged_applyAll rest hRest hBefore.isRooted ?_ hApply)
      intro e he p hp
      rw [hBefore.name?]
      exact hPlace e (List.mem_cons_of_mem _ he) p hp
    next => contradiction

end

end TutorialTree

end DocSite

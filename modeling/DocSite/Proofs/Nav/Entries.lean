import DocSite.Proofs.Nav.Growth
import Mathlib.Data.List.Nodup

/-! The longnames of the nodes of a navigation tree. If every longname stands in its chains
behind the same other ones, and a sign before a name makes no other name of the level, no
longname has two nodes; and every longname of the chains has one exactly if on every level
each longname holds its key. -/

namespace DocSite

namespace NavTree

mutual

/-- The longnames of a node and of what is below it. -/
def nodeNames : NavNode → List String
  | ⟨longname, _, _, children⟩ => longname :: names children

/-- The longnames of all nodes of a tree. -/
def names : List (String × NavNode) → List String
  | [] => []
  | (_, node) :: rest => nodeNames node ++ names rest

end

theorem names_eq_flatMap (level : NavTree) :
    names level = level.flatMap fun e => nodeNames e.2 := by
  induction level with
  | nil => rfl
  | cons e level ih => rw [names, ih, List.flatMap_cons]

theorem nodup_keys_ofChains (chains : List (List String)) : (ofChains chains).keys.Nodup :=
  wellKeyed_ofChains chains [] _ rfl

/-! ### Chains that agree -/

/-- Whether a sign before a name makes it the last name of a longname only if there is none. -/
def IsPlain (longname : String) : Prop :=
  ∀ other, scopedName other = lastName longname → lastName other = lastName longname

/-- What makes chains those of a forest of longnames: a longname always stands behind the same
other ones, and it stands in no chain twice. -/
structure IsForest (chains : List (List String)) : Prop where
  uncrossed : Uncrossed (heads chains)
  isPlain : ∀ chain ∈ chains, ∀ c ∈ chain.tail, IsPlain c
  nodup : ∀ chain ∈ chains, chain.Nodup
  path_eq : ∀ a ∈ chains, ∀ b ∈ chains, ∀ c ∈ a, c ∈ b →
    a.takeWhile (· ≠ c) = b.takeWhile (· ≠ c)

section Forest
variable {chains : List (List String)}

/-- Two chains that share a longname begin with the same one. -/
theorem IsForest.head_eq (h : IsForest chains) {a b : String} {as bs : List String} {c : String}
    (ha : a :: as ∈ chains) (hb : b :: bs ∈ chains) (hc : c ∈ a :: as) (hc' : c ∈ b :: bs) :
    a = b := by
  have hPath := h.path_eq _ ha _ hb c hc hc'
  by_cases hac : a = c <;> by_cases hbc : b = c
  · rw [hac, hbc]
  · simp [hac, hbc] at hPath
  · simp [hac, hbc] at hPath
  · simp only [List.takeWhile_cons, hac, hbc, ne_eq, not_false_eq_true, decide_true,
      ↓reduceIte] at hPath
    exact (List.cons.inj hPath).1

/-- A longname that a chain begins with is in the rest of none. -/
theorem IsForest.not_mem_rest (h : IsForest chains) {a c : String} {as cs : List String}
    (ha : a :: as ∈ chains) (hc : c :: cs ∈ chains) : c ∉ as := by
  intro hMem
  obtain rfl := h.head_eq ha hc (List.mem_cons_of_mem _ hMem) List.mem_cons_self
  exact (List.nodup_cons.1 (h.nodup _ ha)).1 hMem

/-- The rests of certain chains of a forest are one too. -/
theorem IsForest.below (h : IsForest chains) (p : String → Bool) :
    IsForest (below p chains) := by
  constructor
  case uncrossed =>
    intro c _ e he hName
    obtain ⟨rest, hRest⟩ := mem_heads_iff.1 he
    obtain ⟨first, -, hChain⟩ := mem_below_iff.1 hRest
    exact h.isPlain _ hChain e List.mem_cons_self c hName
  case isPlain =>
    intro rest hRest c hc
    obtain ⟨first, -, hChain⟩ := mem_below_iff.1 hRest
    exact h.isPlain _ hChain c (List.mem_of_mem_tail hc)
  case nodup =>
    intro rest hRest
    obtain ⟨first, -, hChain⟩ := mem_below_iff.1 hRest
    exact (List.nodup_cons.1 (h.nodup _ hChain)).2
  case path_eq =>
    intro as has bs hbs c hc hc'
    obtain ⟨a, -, ha⟩ := mem_below_iff.1 has
    obtain ⟨b, -, hb⟩ := mem_below_iff.1 hbs
    have hac : a ≠ c := by
      rintro rfl
      exact (List.nodup_cons.1 (h.nodup _ ha)).1 hc
    have hbc : b ≠ c := by
      rintro rfl
      exact (List.nodup_cons.1 (h.nodup _ hb)).1 hc'
    have hPath := h.path_eq _ ha _ hb c (List.mem_cons_of_mem _ hc) (List.mem_cons_of_mem _ hc')
    simp only [List.takeWhile_cons, hac, hbc, ne_eq, not_false_eq_true, decide_true,
      ↓reduceIte] at hPath
    exact (List.cons.inj hPath).2

end Forest

theorem length_below_le (p : String → Bool) (chains : List (List String)) :
    (below p chains).flatten.length + (heads chains).length ≤ chains.flatten.length := by
  induction chains with
  | nil => simp [below, heads]
  | cons chain chains ih =>
    cases chain with
    | nil => simpa [below, heads, List.filterMap_cons] using ih
    | cons c rest =>
      cases hp : p c <;> simp [below, heads, hp] at ih ⊢ <;> omega

/-- What holds of chains if it holds of their rests holds of all chains. -/
theorem below_induct {P : List (List String) → Prop}
    (step : ∀ chains, (∀ p, heads chains ≠ [] → P (below p chains)) → P chains)
    (chains : List (List String)) : P chains := by
  induction hLength : chains.flatten.length using Nat.strongRecOn generalizing chains with
  | _ n ih =>
    refine step chains fun p hHeads => ih _ ?_ (below p chains) rfl
    have hLess := length_below_le p chains
    have hPos := List.length_pos_iff.2 hHeads
    omega

/-! ### Longnames of a forest -/

section Names
variable {chains : List (List String)}

theorem nodeNames_of_nodeOf? {p : String → Bool} {node : NavNode}
    (h : nodeOf? p chains = some node) : ∃ c, (heads chains).find? p = some c ∧
      nodeNames node = c :: names (ofChains (below p chains)) := by
  obtain ⟨c, hFind, rfl⟩ := Option.map_eq_some_iff.1 h
  exact ⟨c, hFind, by rw [nodeNames]⟩

/-- The longnames of a tree are those that hold a key, and those below. -/
theorem mem_names_ofChains (h : Uncrossed (heads chains)) {x : String} :
    x ∈ names (ofChains chains) ↔ ∃ key c, (heads chains).find? (hasKey chains key) = some c ∧
      (x = c ∨ x ∈ names (ofChains (below (hasKey chains key) chains))) := by
  rw [names_eq_flatMap, List.mem_flatMap]
  constructor
  · rintro ⟨⟨key, node⟩, hMem, hx⟩
    rw [Dict.mem_iff_get? (nodup_keys_ofChains chains), get?_ofChains h] at hMem
    obtain ⟨c, hFind, hNames⟩ := nodeNames_of_nodeOf? hMem
    rw [hNames, List.mem_cons] at hx
    exact ⟨key, c, hFind, hx⟩
  · rintro ⟨key, c, hFind, hx⟩
    obtain ⟨node, hNode⟩ : ∃ node, nodeOf? (hasKey chains key) chains = some node := by
      rw [nodeOf?, hFind]
      exact ⟨_, rfl⟩
    obtain ⟨c', hFind', hNames⟩ := nodeNames_of_nodeOf? hNode
    obtain rfl := Option.some.inj (hFind.symm.trans hFind')
    refine ⟨(key, node), ?_, by rwa [hNames, List.mem_cons]⟩
    rw [Dict.mem_iff_get? (nodup_keys_ofChains chains), get?_ofChains h, hNode]

/-- A tree has nodes for longnames of its chains only. -/
theorem exists_chain_of_mem_names (h : IsForest chains) {x : String}
    (hx : x ∈ names (ofChains chains)) : ∃ chain ∈ chains, x ∈ chain := by
  induction chains using below_induct with
  | step chains ih =>
    obtain ⟨key, c, hFind, rfl | hBelow⟩ := (mem_names_ofChains h.uncrossed).1 hx
    · obtain ⟨rest, hChain⟩ := mem_heads_iff.1 (List.mem_of_find?_eq_some hFind)
      exact ⟨_, hChain, List.mem_cons_self⟩
    · have hHeads := List.ne_nil_of_mem (List.mem_of_find?_eq_some hFind)
      obtain ⟨rest, hRest, hMem⟩ := ih _ hHeads (h.below _) hBelow
      obtain ⟨first, -, hChain⟩ := mem_below_iff.1 hRest
      exact ⟨_, hChain, List.mem_cons_of_mem _ hMem⟩

/-- A longname under a key is in a chain that begins with a longname of that key. -/
theorem exists_head_of_mem_nodeNames (h : IsForest chains) {key : String} {node : NavNode}
    (hNode : nodeOf? (hasKey chains key) chains = some node) {x : String}
    (hx : x ∈ nodeNames node) :
    ∃ c rest, c :: rest ∈ chains ∧ hasKey chains key c = true ∧ x ∈ c :: rest := by
  obtain ⟨c, hFind, hNames⟩ := nodeNames_of_nodeOf? hNode
  rw [hNames] at hx
  rcases List.mem_cons.1 hx with rfl | hBelow
  · obtain ⟨rest, hChain⟩ := mem_heads_iff.1 (List.mem_of_find?_eq_some hFind)
    exact ⟨x, rest, hChain, List.find?_some hFind, List.mem_cons_self⟩
  · obtain ⟨rest, hRest, hMem⟩ := exists_chain_of_mem_names (h.below _) hBelow
    obtain ⟨first, hKey, hChain⟩ := mem_below_iff.1 hRest
    exact ⟨first, rest, hChain, hKey, List.mem_cons_of_mem _ hMem⟩

/-- No longname has two nodes. -/
theorem nodup_names (h : IsForest chains) : (names (ofChains chains)).Nodup := by
  induction chains using below_induct with
  | step chains ih =>
    have hEntry : ∀ {key node}, (key, node) ∈ ofChains chains →
        nodeOf? (hasKey chains key) chains = some node := by
      intro key node hMem
      rwa [Dict.mem_iff_get? (nodup_keys_ofChains chains), get?_ofChains h.uncrossed] at hMem
    rw [names_eq_flatMap, List.nodup_flatMap]
    constructor
    · rintro ⟨key, node⟩ hMem
      obtain ⟨c, hFind, hNames⟩ := nodeNames_of_nodeOf? (hEntry hMem)
      have hHead := List.mem_of_find?_eq_some hFind
      rw [hNames, List.nodup_cons]
      refine ⟨fun hBelow => ?_, ih _ (List.ne_nil_of_mem hHead) (h.below _)⟩
      obtain ⟨rest, hRest, hMem⟩ := exists_chain_of_mem_names (h.below _) hBelow
      obtain ⟨first, -, hChain⟩ := mem_below_iff.1 hRest
      obtain ⟨rest', hChain'⟩ := mem_heads_iff.1 hHead
      exact h.not_mem_rest hChain hChain' hMem
    · have hKeys : (ofChains chains).Pairwise fun e e' => e.1 ≠ e'.1 :=
        List.pairwise_map.1 (nodup_keys_ofChains chains)
      refine hKeys.imp_of_mem fun {e e'} he he' hNe => ?_
      obtain ⟨key, node⟩ := e
      obtain ⟨key', node'⟩ := e'
      intro x hx hx'
      obtain ⟨c, rest, hChain, hKey, hMem⟩ := exists_head_of_mem_nodeNames h (hEntry he) hx
      obtain ⟨c', rest', hChain', hKey', hMem'⟩ := exists_head_of_mem_nodeNames h (hEntry he') hx'
      obtain rfl := h.head_eq hChain hChain' hMem hMem'
      exact hNe ((beq_iff_eq.1 hKey).symm.trans (beq_iff_eq.1 hKey'))

end Names

/-! ### Longnames that hold their keys -/

/-- The longnames that follow certain ones in some chains. -/
def headsAfter : List String → List (List String) → List String
  | [], chains => heads chains
  | c :: path, chains => headsAfter path (below (· == c) chains)

/-- Whether a longname is the first of its level with its key. -/
def Holds (heads : List String) (longname : String) : Prop :=
  heads.find? (keyAmong heads · == keyAmong heads longname) = some longname

/-- Whether on every level of some chains each longname holds its key. -/
def AllHold (chains : List (List String)) : Prop :=
  ∀ path, ∀ c ∈ headsAfter path chains, Holds (headsAfter path chains) c

section AllHold
variable {chains : List (List String)}

theorem headsAfter_nil (path : List String) : headsAfter path [] = [] := by
  induction path with
  | nil => rfl
  | cons c path ih => exact ih

theorem allHold_nil : AllHold [] := by
  intro path c hc
  rw [headsAfter_nil] at hc
  exact absurd hc List.not_mem_nil

theorem allHold_iff : AllHold chains ↔
    (∀ c ∈ heads chains, Holds (heads chains) c) ∧ ∀ c, AllHold (below (· == c) chains) := by
  constructor
  · exact fun h => ⟨h [], fun c path => h (c :: path)⟩
  · rintro ⟨hHeads, hBelow⟩ (_ | ⟨c, path⟩)
    · exact hHeads
    · exact hBelow c path

/-- If all longnames of a level hold their keys, no two have one key. -/
theorem below_hasKey (h : ∀ c ∈ heads chains, Holds (heads chains) c) {c : String}
    (hc : c ∈ heads chains) :
    below (hasKey chains (keyAmong (heads chains) c)) chains = below (· == c) chains := by
  refine below_congr fun e he => ?_
  rw [Bool.eq_iff_iff, hasKey, beq_iff_eq, beq_iff_eq]
  constructor
  · intro hKey
    have hFind := h e he
    rw [Holds, hKey] at hFind
    exact Option.some.inj (hFind.symm.trans (h c hc))
  · rintro rfl
    rfl

/-- A longname that chains begin with has a node exactly if it holds its key. -/
theorem mem_names_head_iff (h : IsForest chains) {c : String} (hc : c ∈ heads chains) :
    c ∈ names (ofChains chains) ↔ Holds (heads chains) c := by
  obtain ⟨rest, hChain⟩ := mem_heads_iff.1 hc
  rw [mem_names_ofChains h.uncrossed]
  constructor
  · rintro ⟨key, first, hFind, rfl | hBelow⟩
    · have hKey : keyAmong (heads chains) c = key := by simpa [hasKey] using List.find?_some hFind
      subst hKey
      exact hFind
    · obtain ⟨rest', hRest, hMem⟩ := exists_chain_of_mem_names (h.below _) hBelow
      obtain ⟨first', -, hChain'⟩ := mem_below_iff.1 hRest
      exact absurd hMem (h.not_mem_rest hChain' hChain)
  · exact fun hHolds => ⟨_, c, hHolds, .inl rfl⟩

/-- Where all of a level hold their keys, a longname behind one of them has a node exactly if it
has one below. -/
theorem mem_names_rest_iff (h : IsForest chains) (hHolds : ∀ c ∈ heads chains, Holds (heads chains) c)
    {c x : String} {rest : List String} (hChain : c :: rest ∈ chains) (hx : x ∈ rest) :
    x ∈ names (ofChains chains) ↔ x ∈ names (ofChains (below (· == c) chains)) := by
  have hc : c ∈ heads chains := mem_heads_iff.2 ⟨rest, hChain⟩
  rw [mem_names_ofChains h.uncrossed, ← below_hasKey hHolds hc]
  constructor
  · rintro ⟨key, first, hFind, rfl | hBelow⟩
    · obtain ⟨rest', hChain'⟩ := mem_heads_iff.1 (List.mem_of_find?_eq_some hFind)
      exact absurd hx (h.not_mem_rest hChain hChain')
    · obtain ⟨rest', hRest, hMem⟩ := exists_chain_of_mem_names (h.below _) hBelow
      obtain ⟨first', hKey, hChain'⟩ := mem_below_iff.1 hRest
      obtain rfl := h.head_eq hChain' hChain (List.mem_cons_of_mem _ hMem)
        (List.mem_cons_of_mem _ hx)
      have hEq := beq_iff_eq.1 hKey
      subst hEq
      exact hBelow
  · exact fun hBelow => ⟨_, c, hHolds c hc, .inr hBelow⟩

/-- All longnames of the chains have nodes exactly if on every level each holds its key. -/
theorem forall_mem_names_iff (h : IsForest chains) :
    (∀ chain ∈ chains, ∀ x ∈ chain, x ∈ names (ofChains chains)) ↔ AllHold chains := by
  induction chains using below_induct with
  | step chains ih =>
    rw [allHold_iff]
    constructor
    · intro hAll
      have hHolds : ∀ c ∈ heads chains, Holds (heads chains) c := by
        intro c hc
        obtain ⟨rest, hChain⟩ := mem_heads_iff.1 hc
        exact (mem_names_head_iff h hc).1 (hAll _ hChain c List.mem_cons_self)
      refine ⟨hHolds, fun c => ?_⟩
      by_cases hHeads : heads chains = []
      · have hBelow : below (· == c) chains = [] := below_eq_nil (by simp [hHeads])
        rw [hBelow]
        exact allHold_nil
      · refine (ih _ hHeads (h.below _)).1 fun rest hRest x hx => ?_
        obtain ⟨first, hFirst, hChain⟩ := mem_below_iff.1 hRest
        obtain rfl := beq_iff_eq.1 hFirst
        exact (mem_names_rest_iff h hHolds hChain hx).1
          (hAll _ hChain x (List.mem_cons_of_mem _ hx))
    · rintro ⟨hHolds, hBelow⟩ chain hChain x hx
      cases chain with
      | nil => exact absurd hx List.not_mem_nil
      | cons c rest =>
        have hc : c ∈ heads chains := mem_heads_iff.2 ⟨rest, hChain⟩
        rcases List.mem_cons.1 hx with rfl | hx
        · exact (mem_names_head_iff h hc).2 (hHolds x hc)
        · have hRest : rest ∈ below (· == c) chains := mem_below_iff.2 ⟨c, by simp, hChain⟩
          exact (mem_names_rest_iff h hHolds hChain hx).2
            ((ih _ (List.ne_nil_of_mem hc) (h.below _)).2 (hBelow c) rest hRest x hx)

end AllHold

end NavTree

end DocSite

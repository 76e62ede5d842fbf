import DocSite.NavTree
import Mathlib.Data.List.Induction

/-! The levels of the navigation tree. A tree files chains of longnames one after the other,
but what a level holds can be told from the chains as a whole: the first longname of a chain
decides its key, by the longnames that came before it, and under every key is the longname
that came first, with the tree of what is left of the chains that have the key. -/

namespace DocSite

namespace NavTree

/-- The tree of some chains of longnames. -/
def ofChains (chains : List (List String)) : NavTree := chains.foldl insertChain []

theorem ofChains_append (chains : List (List String)) (chain : List String) :
    ofChains (chains ++ [chain]) = (ofChains chains).insertChain chain := by
  simp [ofChains]

/-- The chains of some longnames, of which empty ones have none. -/
def chainsOf (longnames : List String) : List (List String) :=
  (longnames.filter (· ≠ "")).map Longname.enclosing

theorem mem_chainsOf_iff {longnames : List String} {chain : List String} :
    chain ∈ chainsOf longnames ↔
      ∃ longname ∈ longnames, longname ≠ "" ∧ Longname.enclosing longname = chain := by
  simp [chainsOf, and_assoc]

theorem ofLongnames_eq (longnames : List String) :
    ofLongnames longnames = ofChains (chainsOf longnames) := by
  unfold chainsOf
  induction longnames using List.reverseRecOn with
  | nil => rfl
  | append_singleton longnames longname ih =>
    rw [ofLongnames_append, List.foldl_cons, List.foldl_nil, ih]
    by_cases h : longname = ""
    · simp [h]
    · simp [h, ofChains_append, insert]

/-! ### Keys -/

/-- The last name of a longname. -/
def lastName (longname : String) : String := (Longname.shorten longname).name

/-- The last name of a longname with the sign of its scope before it. -/
def scopedName (longname : String) : String :=
  (Longname.shorten longname).punctuation ++ lastName longname

theorem scopedName_of_none {longname : String} (h : (Longname.shorten longname).scope = none) :
    scopedName longname = lastName longname := by
  simp [scopedName, Longname.Parts.punctuation, h]

theorem toList_scopedName {longname : String} {scope : Scope}
    (h : (Longname.shorten longname).scope = some scope) :
    (scopedName longname).toList = scope.punctuation :: (lastName longname).toList := by
  simp [scopedName, Longname.Parts.punctuation, h]

/-- The key of a longname on a level where some longnames were filed. -/
def keyAmong (heads : List String) (longname : String) : String :=
  if heads.find? (lastName · == lastName longname) = some longname then lastName longname
  else scopedName longname

@[simp] theorem longname_shorten (longname : String) :
    (Longname.shorten longname).longname = longname := by
  unfold Longname.shorten
  dsimp only
  split <;> rfl

/-- Whether a last name of some longnames is that of another one with a sign before it. -/
def Uncrossed (heads : List String) : Prop :=
  ∀ c ∈ heads, ∀ e ∈ heads, scopedName c = lastName e → lastName c = lastName e

theorem Uncrossed.of_append {heads more : List String} (h : Uncrossed (heads ++ more)) :
    Uncrossed heads := fun c hc e he =>
  h c (List.mem_append_left _ hc) e (List.mem_append_left _ he)

section Keys
variable {heads : List String}

/-- The first of a last name has it for a key. -/
theorem keyAmong_of_find? {n c : String} (h : heads.find? (lastName · == n) = some c) :
    keyAmong heads c = n := by
  have hName : lastName c = n := by simpa using List.find?_some h
  rw [keyAmong, hName, if_pos h]

/-- Longnames that are filed later do not change a key. -/
theorem keyAmong_append {c : String} (h : c ∈ heads) (more : List String) :
    keyAmong (heads ++ more) c = keyAmong heads c := by
  have hSome : (heads.find? (lastName · == lastName c)).isSome :=
    List.find?_isSome.2 ⟨c, h, by simp⟩
  obtain ⟨first, hFirst⟩ := Option.isSome_iff_exists.1 hSome
  simp [keyAmong, List.find?_append, hFirst]

theorem find?_eq_of_imp {α : Type} {p q : α → Bool} {xs : List α}
    (hImp : ∀ x ∈ xs, p x = true → q x = true)
    (hFirst : ∀ x, xs.find? q = some x → p x = true) : xs.find? p = xs.find? q := by
  induction xs with
  | nil => rfl
  | cons x xs ih =>
    by_cases hq : q x = true
    · rw [List.find?_cons_of_pos hq] at hFirst ⊢
      rw [List.find?_cons_of_pos (hFirst x rfl)]
    · have hp : ¬ p x = true := mt (hImp x List.mem_cons_self) hq
      rw [List.find?_cons_of_neg hq] at hFirst ⊢
      rw [List.find?_cons_of_neg hp]
      exact ih (fun y hy => hImp y (List.mem_cons_of_mem _ hy)) hFirst

/-- Under a last name stands the first longname that has it. -/
theorem find?_keyAmong {n : String} (h : ∀ c ∈ heads, scopedName c = n → lastName c = n) :
    heads.find? (keyAmong heads · == n) = heads.find? (lastName · == n) := by
  refine find?_eq_of_imp (fun c hc hKey => ?_) fun c hc => beq_iff_eq.2 (keyAmong_of_find? hc)
  rw [beq_iff_eq, keyAmong] at hKey
  rw [beq_iff_eq]
  split_ifs at hKey
  · exact hKey
  · exact h c hc hKey

/-- The key that a level gives, if the first of its last name is known. -/
theorem keyFor_eq {level : NavTree} {c : String}
    (h : (level.get? (lastName c)).map NavNode.longname =
      heads.find? (lastName · == lastName c)) :
    keyFor level (Longname.shorten c) = keyAmong (heads ++ [c]) c := by
  unfold keyFor keyAmong
  rw [List.find?_append, ← h]
  have hName : (Longname.shorten c).name = lastName c := rfl
  rw [hName]
  cases level.get? (lastName c) with
  | none => simp [lastName]
  | some node => simp [lastName, scopedName]

end Keys

/-! ### Chains by their first longname -/

/-- The longnames that some chains begin with. -/
def heads (chains : List (List String)) : List String := chains.filterMap List.head?

/-- The rests of the chains that begin with certain longnames. -/
def below (p : String → Bool) (chains : List (List String)) : List (List String) :=
  (chains.filter fun chain => chain.head?.any p).map List.tail

/-- The node of the first of certain longnames, with what is below all of them. -/
def nodeOf? (p : String → Bool) (chains : List (List String)) : Option NavNode :=
  ((heads chains).find? p).map fun c =>
    ⟨c, lastName c, (Longname.shorten c).memberof, ofChains (below p chains)⟩

section Chains
variable {chains : List (List String)} {p p' : String → Bool}

theorem mem_heads_iff {c : String} : c ∈ heads chains ↔ ∃ rest, c :: rest ∈ chains := by
  simp only [heads, List.mem_filterMap, List.head?_eq_some_iff]
  constructor
  · rintro ⟨chain, hChain, rest, rfl⟩
    exact ⟨rest, hChain⟩
  · rintro ⟨rest, hChain⟩
    exact ⟨_, hChain, rest, rfl⟩

theorem mem_below_iff {rest : List String} :
    rest ∈ below p chains ↔ ∃ c, p c = true ∧ c :: rest ∈ chains := by
  simp only [below, List.mem_map, List.mem_filter]
  constructor
  · rintro ⟨chain, ⟨hChain, hp⟩, rfl⟩
    cases chain with
    | nil => simp at hp
    | cons c rest => exact ⟨c, by simpa using hp, hChain⟩
  · rintro ⟨c, hp, hChain⟩
    exact ⟨c :: rest, ⟨hChain, by simpa using hp⟩, rfl⟩

theorem below_congr (h : ∀ c ∈ heads chains, p c = p' c) : below p chains = below p' chains := by
  unfold below
  congr 1
  refine List.filter_congr fun chain hChain => ?_
  cases chain with
  | nil => rfl
  | cons c rest => exact h c (mem_heads_iff.2 ⟨rest, hChain⟩)

theorem below_eq_nil (h : (heads chains).find? p = none) : below p chains = [] := by
  refine List.eq_nil_iff_forall_not_mem.2 fun rest hRest => ?_
  obtain ⟨c, hp, hChain⟩ := mem_below_iff.1 hRest
  exact List.find?_eq_none.1 h c (mem_heads_iff.2 ⟨rest, hChain⟩) hp

theorem nodeOf?_congr (h : ∀ c ∈ heads chains, p c = p' c) :
    nodeOf? p chains = nodeOf? p' chains := by
  have hFind : (heads chains).find? p = (heads chains).find? p' := by
    refine find?_eq_of_imp (fun c hc hp => (h c hc).symm.trans hp) fun c hc => ?_
    exact (h c (List.mem_of_find?_eq_some hc)).trans (List.find?_some hc)
  rw [nodeOf?, nodeOf?, hFind, below_congr h]

end Chains

/-- A node after a chain was filed through it, or a new one. -/
def grown (c : String) (rest : List String) : Option NavNode → NavNode
  | some node => { node with children := insertChain node.children rest }
  | none => ⟨c, lastName c, (Longname.shorten c).memberof, insertChain [] rest⟩

theorem insertChain_cons (level : NavTree) (c : String) (rest : List String) :
    insertChain level (c :: rest) =
      level.put (keyFor level (Longname.shorten c))
        (grown c rest (level.get? (keyFor level (Longname.shorten c)))) := by
  rw [insertChain]
  cases level.get? (keyFor level (Longname.shorten c)) <;> simp [grown, lastName]

section Append
variable {p : String → Bool} (chains : List (List String)) {c : String} (rest : List String)

theorem nodeOf?_append_of_pos (h : p c = true) :
    nodeOf? p (chains ++ [c :: rest]) = some (grown c rest (nodeOf? p chains)) := by
  have hBelow : below p (chains ++ [c :: rest]) = below p chains ++ [rest] := by
    simp [below, h]
  unfold nodeOf?
  rw [hBelow, heads, List.filterMap_append, List.find?_append, ← heads, ofChains_append]
  cases hFind : (heads chains).find? p with
  | none => simp [h, grown, below_eq_nil hFind, ofChains]
  | some first => simp [grown]

theorem nodeOf?_append_of_neg (h : p c = false) :
    nodeOf? p (chains ++ [c :: rest]) = nodeOf? p chains := by
  simp [nodeOf?, below, heads, h]

end Append

/-- Whether a longname that some chains begin with has a key. -/
def hasKey (chains : List (List String)) (key longname : String) : Bool :=
  keyAmong (heads chains) longname == key

/-- What stands under a key: the first of the longnames with the key, and below it the tree of
what is left of all chains that begin with one of them. -/
theorem get?_ofChains {chains : List (List String)} (h : Uncrossed (heads chains))
    (key : String) : (ofChains chains).get? key = nodeOf? (hasKey chains key) chains := by
  unfold hasKey
  induction chains using List.reverseRecOn generalizing key with
  | nil => rfl
  | append_singleton chains chain ih =>
    cases chain with
    | nil =>
      have hHeads : heads (chains ++ [[]]) = heads chains := by simp [heads]
      rw [hHeads] at h ⊢
      rw [ofChains_append, insertChain, ih h]
      simp [nodeOf?, below, heads]
    | cons c rest =>
      have hHeads : heads (chains ++ [c :: rest]) = heads chains ++ [c] := by simp [heads]
      rw [hHeads] at h ⊢
      have ih := ih h.of_append
      -- the key that the tree gives is the one among all heads
      have hKey : keyFor (ofChains chains) (Longname.shorten c) =
          keyAmong (heads chains ++ [c]) c := by
        refine keyFor_eq ?_
        have hFirst : ((nodeOf? (keyAmong (heads chains) · == lastName c) chains).map
            NavNode.longname) = (heads chains).find? (keyAmong (heads chains) · == lastName c) := by
          rw [nodeOf?, Option.map_map]
          exact Option.map_id'
        rw [ih, hFirst, find?_keyAmong]
        exact fun e he hName => h e (List.mem_append_left _ he) c (by simp) hName
      have hOld : ∀ key, nodeOf? (keyAmong (heads chains ++ [c]) · == key) chains =
          nodeOf? (keyAmong (heads chains) · == key) chains :=
        fun key => nodeOf?_congr fun e he => by rw [keyAmong_append he]
      rw [ofChains_append, insertChain_cons, hKey, Dict.get?_put]
      by_cases hSame : keyAmong (heads chains ++ [c]) c = key
      · rw [if_pos hSame, nodeOf?_append_of_pos chains rest (by simpa using hSame), hOld, ih, hSame]
      · rw [if_neg hSame, nodeOf?_append_of_neg chains rest (by simpa using hSame), hOld, ih]

end NavTree

end DocSite

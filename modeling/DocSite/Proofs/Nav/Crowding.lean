import DocSite.Proofs.Nav.Enclosing
import DocSite.Proofs.Nav.Entries
import Mathlib.Data.List.TakeWhile

/-! Which longnames are lost in a navigation tree. If the longnames that enclose another one are
enclosed by each other, the tree of their chains is that of a forest, and a level is all the
longnames behind one path. There the first of a last name gets it for a key, and each other
longname competes for the name with its sign. -/

namespace DocSite

namespace NavTree

/-! ### Layers -/

/-- Whether each longname that encloses another one has the same longnames before it there as
alone. -/
def IsLayered (longname : String) : Prop :=
  ∀ c ∈ Longname.enclosing longname, Longname.enclosing c <+: Longname.enclosing longname

instance (longname : String) : Decidable (IsLayered longname) :=
  inferInstanceAs (Decidable (∀ c ∈ Longname.enclosing longname, _))

theorem takeWhile_ne_of_nodup {c : String} {before after : List String}
    (h : (before ++ c :: after).Nodup) : (before ++ c :: after).takeWhile (· ≠ c) = before := by
  have hNot : c ∉ before := fun hMem =>
    (List.nodup_append.1 h).2.2 c hMem c List.mem_cons_self rfl
  rw [List.takeWhile_append_of_pos (fun e he => by
    simpa using fun hEq : e = c => hNot (hEq ▸ he))]
  simp

section Layers
variable {longname : String}

/-- A longname in a chain of layers stands there behind its own path. -/
theorem IsLayered.takeWhile_eq (h : IsLayered longname) {c : String}
    (hc : c ∈ Longname.enclosing longname) :
    (Longname.enclosing longname).takeWhile (· ≠ c) = Longname.pathOf c := by
  obtain ⟨after, hChain⟩ := h c hc
  have hNodup := Longname.nodup_enclosing longname
  rw [← hChain, Longname.enclosing_eq, List.append_assoc] at hNodup ⊢
  exact takeWhile_ne_of_nodup hNodup

/-- A longname in a chain of layers stands behind the chain of what it is a member of. -/
theorem IsLayered.pathOf_eq (h : IsLayered longname) {c : String}
    (hc : c ∈ Longname.enclosing longname) :
    Longname.pathOf c = if (Longname.shorten c).memberof = "" then []
      else Longname.enclosing (Longname.shorten c).memberof := by
  obtain ⟨hPath, hParent, -⟩ | ⟨-, hLast, -⟩ := Longname.shorten_cases c
  · rw [hPath, if_pos hParent]
  rw [if_neg (Longname.ne_empty_of_mem_pathOf (List.mem_of_getLast? hLast))]
  obtain ⟨before, hPath⟩ := List.getLast?_eq_some_iff.1 hLast
  obtain ⟨after, hChain⟩ := h c hc
  rw [Longname.enclosing_eq, hPath, List.append_assoc, List.append_assoc] at hChain
  have hMem : (Longname.shorten c).memberof ∈ Longname.enclosing longname := by
    rw [← hChain]
    simp
  have hBefore := h.takeWhile_eq hMem
  have hNodup := Longname.nodup_enclosing longname
  rw [← hChain, List.singleton_append, takeWhile_ne_of_nodup] at hBefore
  · rw [hPath, Longname.enclosing_eq, hBefore]
  · rwa [← hChain] at hNodup

end Layers

/-- The longnames of a list and all that enclose them, chain after chain. -/
def chunks (longnames : List String) : List String :=
  (longnames.filter (· ≠ "")).flatMap Longname.enclosing

section Chunks
variable {longnames : List String}

theorem mem_chunks_iff {c : String} : c ∈ chunks longnames ↔
    ∃ longname ∈ longnames, longname ≠ "" ∧ c ∈ Longname.enclosing longname := by
  simp [chunks, and_assoc]

/-- Longnames of layers are members of the same one if they stand behind the same path. -/
theorem memberof_eq_iff (h : ∀ longname ∈ longnames, IsLayered longname) {c e : String}
    (hc : c ∈ chunks longnames) (he : e ∈ chunks longnames) :
    (Longname.shorten e).memberof = (Longname.shorten c).memberof ↔
      Longname.pathOf e = Longname.pathOf c := by
  obtain ⟨longname, hMem, -, hc⟩ := mem_chunks_iff.1 hc
  obtain ⟨longname', hMem', -, he⟩ := mem_chunks_iff.1 he
  constructor
  · intro hEq
    rw [(h _ hMem').pathOf_eq he, (h _ hMem).pathOf_eq hc, hEq]
  · intro hEq
    rw [Longname.memberof_eq, Longname.memberof_eq, hEq]

end Chunks

/-! ### The forest of the chains -/

/-- A last name that no sign begins is made by no sign. -/
theorem isPlain_of_no_sign {longname : String}
    (h : ∀ c rest, (Longname.shorten longname).name.toList = c :: rest →
      Scope.ofPunctuation? c = none) : IsPlain longname := by
  intro other hName
  cases hScope : (Longname.shorten other).scope with
  | none => rwa [← scopedName_of_none hScope]
  | some scope =>
    have hNone := h _ _ ((congrArg String.toList hName).symm.trans (toList_scopedName hScope))
    rw [Scope.ofPunctuation?_eq_some_iff.2 rfl] at hNone
    contradiction

/-- The chains of layered longnames are those of a forest. -/
theorem isForest_chainsOf {longnames : List String}
    (h : ∀ longname ∈ longnames, IsLayered longname) : IsForest (chainsOf longnames) := by
  constructor
  case uncrossed =>
    intro c hc e _ hName
    obtain ⟨rest, hChain⟩ := mem_heads_iff.1 hc
    obtain ⟨longname, hMem, -, hEq⟩ := mem_chainsOf_iff.1 hChain
    -- a longname that begins a chain stands behind no path, so it has no sign
    have hPath := (h _ hMem).takeWhile_eq (c := c) (by simp [hEq])
    obtain ⟨-, -, hScope⟩ | ⟨scope, hLast, -⟩ := Longname.shorten_cases c
    · rwa [← scopedName_of_none hScope]
    · simp [← hPath, hEq] at hLast
  case isPlain =>
    intro chain hChain c hc
    obtain ⟨longname, hMem, -, rfl⟩ := mem_chainsOf_iff.1 hChain
    have hPath := (h _ hMem).takeWhile_eq (List.mem_of_mem_tail hc)
    have hNodup := Longname.nodup_enclosing longname
    obtain ⟨hNone, -, -⟩ | ⟨scope, -, -, hSign⟩ := Longname.shorten_cases c
    · rw [hNone] at hPath
      cases hEq : Longname.enclosing longname with
      | nil => simp [hEq] at hc
      | cons first rest =>
        rw [hEq] at hPath hNodup hc
        have hNe : first ≠ c := by
          rintro rfl
          exact (List.nodup_cons.1 hNodup).1 hc
        simp [hNe] at hPath
    · exact isPlain_of_no_sign hSign
  case nodup =>
    intro chain hChain
    obtain ⟨longname, -, -, rfl⟩ := mem_chainsOf_iff.1 hChain
    exact Longname.nodup_enclosing longname
  case path_eq =>
    intro a ha b hb c hc hc'
    obtain ⟨longname, hMem, -, rfl⟩ := mem_chainsOf_iff.1 ha
    obtain ⟨longname', hMem', -, rfl⟩ := mem_chainsOf_iff.1 hb
    rw [(h _ hMem).takeWhile_eq hc, (h _ hMem').takeWhile_eq hc']

/-! ### Levels by their paths -/

/-- What stands behind a path in one chain, taken from the chain without its first longname. -/
theorem filter_takeWhile_cons {first a : String} {rest path : List String}
    (h : (first :: rest).Nodup) :
    (first :: rest).filter (fun e => (first :: rest).takeWhile (· ≠ e) = a :: path) =
      if first = a then rest.filter (fun e => rest.takeWhile (· ≠ e) = path) else [] := by
  have hRest : ∀ e ∈ rest, first ≠ e := by
    rintro e he rfl
    exact (List.nodup_cons.1 h).1 he
  rw [List.filter_cons_of_neg (by simp)]
  split_ifs with hFirst
  · refine List.filter_congr fun e he => ?_
    rw [List.takeWhile_cons_of_pos (by simpa using hRest e he), hFirst]
    simp
  · refine List.filter_eq_nil_iff.2 fun e he => ?_
    rw [List.takeWhile_cons_of_pos (by simpa using hRest e he)]
    simp [hFirst]

theorem filter_takeWhile_nil {first : String} {rest : List String} (h : (first :: rest).Nodup) :
    (first :: rest).filter (fun e => (first :: rest).takeWhile (· ≠ e) = []) = [first] := by
  rw [List.filter_cons_of_pos (by simp), List.filter_eq_nil_iff.2 fun e he => ?_]
  have hNe : first ≠ e := by
    rintro rfl
    exact (List.nodup_cons.1 h).1 he
  simp [hNe]

theorem flatMap_below (a : String) (f : List String → List String)
    (chains : List (List String)) : (below (· == a) chains).flatMap f =
      chains.flatMap fun chain => if chain.head? = some a then f chain.tail else [] := by
  induction chains with
  | nil => rfl
  | cons chain chains ih =>
    rw [List.flatMap_cons, ← ih]
    cases chain with
    | nil => simp [below]
    | cons first rest => by_cases h : first = a <;> simp [below, h]

/-- What follows a path in some chains is what stands behind it in one of them. -/
theorem headsAfter_eq (path : List String) {chains : List (List String)}
    (h : ∀ chain ∈ chains, chain.Nodup) :
    headsAfter path chains =
      chains.flatMap fun chain => chain.filter fun e => chain.takeWhile (· ≠ e) = path := by
  induction path generalizing chains with
  | nil =>
    rw [headsAfter, heads, List.filterMap_eq_flatMap_toList]
    refine List.flatMap_congr fun chain hChain => ?_
    cases chain with
    | nil => rfl
    | cons first rest => rw [filter_takeWhile_nil (h _ hChain)]; rfl
  | cons a path ih =>
    have hBelow : ∀ rest ∈ below (· == a) chains, rest.Nodup := by
      intro rest hRest
      obtain ⟨first, -, hChain⟩ := mem_below_iff.1 hRest
      exact (List.nodup_cons.1 (h _ hChain)).2
    rw [headsAfter, ih hBelow, flatMap_below]
    refine List.flatMap_congr fun chain hChain => ?_
    cases chain with
    | nil => rfl
    | cons first rest =>
      rw [filter_takeWhile_cons (h _ hChain)]
      simp

theorem headsAfter_chainsOf {longnames : List String}
    (h : ∀ longname ∈ longnames, IsLayered longname) (path : List String) :
    headsAfter path (chainsOf longnames) =
      (chunks longnames).filter (Longname.pathOf · = path) := by
  rw [headsAfter_eq path (isForest_chainsOf h).nodup, chainsOf, chunks, List.flatMap_map,
    List.filter_flatMap]
  refine List.flatMap_congr fun longname hMem => List.filter_congr fun c hc => ?_
  rw [(h _ (List.mem_of_mem_filter hMem)).takeWhile_eq hc]

theorem IsForest.uncrossed_headsAfter {chains : List (List String)} (h : IsForest chains)
    (path : List String) : Uncrossed (headsAfter path chains) := by
  induction path generalizing chains with
  | nil => exact h.uncrossed
  | cons c path ih => exact ih (h.below _)

/-! ### Rivals -/

/-- The longnames of a list that are members of the same one as a longname. -/
def siblings (longnames : List String) (longname : String) : List String :=
  longnames.filter fun e => (Longname.shorten e).memberof = (Longname.shorten longname).memberof

/-- The longnames of a level that come before a longname and have its last name. -/
def rivals (level : List String) (longname : String) : List String :=
  (level.takeWhile (· ≠ longname)).filter (lastName · = lastName longname)

/-- Whether a longname finds no free key on a level: a rival has the last name, and the longname
has no sign, or a further rival has the same sign. -/
def IsCrowdedOut (level : List String) (longname : String) : Prop :=
  rivals level longname ≠ [] ∧ ((Longname.shorten longname).scope = none ∨
    ∃ e ∈ rivals level longname, (rivals level longname).head? ≠ some e ∧
      (Longname.shorten e).scope = (Longname.shorten longname).scope)

instance (level : List String) (longname : String) : Decidable (IsCrowdedOut level longname) :=
  inferInstanceAs (Decidable (_ ∧ (_ ∨ ∃ e ∈ rivals level longname, _)))

theorem find?_eq_or {p : String → Bool} {xs : List String} {c : String} (hMem : c ∈ xs)
    (hc : p c = true) : xs.find? p = ((xs.takeWhile (· ≠ c)).find? p).or (some c) := by
  induction xs with
  | nil => contradiction
  | cons x xs ih =>
    by_cases hSame : x = c
    · simp [hSame, hc]
    · have ih := ih ((List.mem_cons.1 hMem).resolve_left (Ne.symm hSame))
      rw [List.takeWhile_cons_of_pos (by simpa using hSame), List.find?_cons, List.find?_cons, ih]
      cases p x <;> rfl

theorem ne_of_mem_takeWhile {xs : List String} {c e : String} (h : e ∈ xs.takeWhile (· ≠ c)) :
    e ≠ c := by
  simpa using List.mem_takeWhile_imp h

/-- A longname is found exactly if none is that stands before it. -/
theorem find?_eq_some_iff_takeWhile {p : String → Bool} {xs : List String} {c : String}
    (hMem : c ∈ xs) (hc : p c = true) :
    xs.find? p = some c ↔ ∀ e ∈ xs.takeWhile (· ≠ c), ¬ p e = true := by
  rw [find?_eq_or hMem hc, ← List.find?_eq_none]
  cases hFind : (xs.takeWhile (· ≠ c)).find? p with
  | none => simp
  | some e =>
    have hNe := ne_of_mem_takeWhile (List.mem_of_find?_eq_some hFind)
    simp [hNe]

section Level
variable {level : List String} {c : String}

theorem find?_lastName_eq (hc : c ∈ level) :
    level.find? (lastName · == lastName c) = (rivals level c).head?.or (some c) := by
  rw [find?_eq_or hc (by simp), rivals, List.head?_filter]
  rfl

/-- The first of a last name holds it. -/
theorem holds_of_rivals_eq_nil (h : Uncrossed level) (hc : c ∈ level) (hNone : rivals level c = []) :
    Holds level c := by
  have hFirst := find?_lastName_eq hc
  rw [hNone, List.head?_nil, Option.none_or] at hFirst
  rw [Holds, keyAmong_of_find? hFirst, find?_keyAmong, hFirst]
  exact fun e he hName => h e he c hc hName

section Rivals
variable {first : String}

/-- A longname with rivals has its signed name for a key. -/
theorem keyAmong_of_rivals (hc : c ∈ level) (hFirst : (rivals level c).head? = some first) :
    keyAmong level c = scopedName c := by
  have hNe := ne_of_mem_takeWhile (List.mem_of_mem_filter (List.mem_of_head? hFirst))
  have hFind := find?_lastName_eq hc
  rw [hFirst, Option.some_or] at hFind
  rw [keyAmong, hFind, if_neg (by simpa using hNe)]

/-- A longname without a sign does not hold its key against a rival. -/
theorem not_holds_of_scope_eq_none (h : Uncrossed level) (hc : c ∈ level)
    (hFirst : (rivals level c).head? = some first)
    (hScope : (Longname.shorten c).scope = none) : ¬ Holds level c := by
  have hNe := ne_of_mem_takeWhile (List.mem_of_mem_filter (List.mem_of_head? hFirst))
  have hFind := find?_lastName_eq hc
  rw [hFirst, Option.some_or] at hFind
  rw [Holds, keyAmong_of_rivals hc hFirst, scopedName_of_none hScope, find?_keyAmong, hFind]
  · simpa using hNe
  · exact fun e he hName => h e he c hc hName

/-- Against a rival, the others with the same last name and sign compete for a signed name. -/
theorem keyAmong_eq_iff (h : Uncrossed level) {e : String} {scope : Scope} (hc : c ∈ level)
    (he : e ∈ level) (hFirst : (rivals level c).head? = some first)
    (hScope : (Longname.shorten c).scope = some scope) :
    keyAmong level e = keyAmong level c ↔
      lastName e = lastName c ∧ first ≠ e ∧
        (Longname.shorten e).scope = (Longname.shorten c).scope := by
  have hFind := find?_lastName_eq hc
  rw [hFirst, Option.some_or] at hFind
  have hSigned : lastName e ≠ scopedName c := by
    intro hName
    have hChars := congrArg (fun name => name.toList.length)
      (hName.symm.trans (h c hc e he hName.symm).symm)
    simp [toList_scopedName hScope] at hChars
  rw [keyAmong_of_rivals hc hFirst]
  constructor
  · intro hKey
    rw [keyAmong] at hKey
    split_ifs at hKey with hHolder
    · exact absurd hKey hSigned
    · cases hScope' : (Longname.shorten e).scope with
      | none => exact absurd ((scopedName_of_none hScope').symm.trans hKey) hSigned
      | some scope' =>
        have hChars := congrArg String.toList hKey
        rw [toList_scopedName hScope, toList_scopedName hScope', List.cons.injEq] at hChars
        obtain ⟨hSign, hName⟩ := hChars
        have hName := String.toList_inj.1 hName
        refine ⟨hName, ?_, ?_⟩
        · rintro rfl
          exact hHolder (by rw [hName, hFind])
        · rw [hScope, ← Scope.ofPunctuation?_eq_some_iff.2 hSign]
          exact (Scope.ofPunctuation?_eq_some_iff.2 rfl).symm
  · rintro ⟨hName, hNe, hSame⟩
    rw [keyAmong, hName, hFind, if_neg (by simpa using hNe)]
    rw [scopedName, scopedName, hName, Longname.Parts.punctuation, hSame, Longname.Parts.punctuation]

end Rivals

/-- A longname of a level holds its key exactly if it is not crowded out. -/
theorem holds_iff (h : Uncrossed level) (hc : c ∈ level) :
    Holds level c ↔ ¬ IsCrowdedOut level c := by
  unfold IsCrowdedOut
  cases hFirst : (rivals level c).head? with
  | none =>
    have hNone := List.head?_eq_none_iff.1 hFirst
    simpa [hNone] using holds_of_rivals_eq_nil h hc hNone
  | some first =>
    have hSome : rivals level c ≠ [] := by
      intro hNone
      simp [hNone] at hFirst
    cases hScope : (Longname.shorten c).scope with
    | none => simpa [hSome] using not_holds_of_scope_eq_none h hc hFirst hScope
    | some scope =>
      rw [Holds, find?_eq_some_iff_takeWhile hc (by simp), ← hScope]
      have hKey : ∀ e ∈ level.takeWhile (· ≠ c), (keyAmong level e == keyAmong level c) = true ↔
          lastName e = lastName c ∧ first ≠ e ∧
            (Longname.shorten e).scope = (Longname.shorten c).scope := by
        intro e he
        rw [beq_iff_eq]
        exact keyAmong_eq_iff h hc ((List.takeWhile_sublist _).mem he) hFirst hScope
      simp only [hSome, hScope, ne_eq, not_false_eq_true, true_and, reduceCtorEq, false_or]
      constructor
      · rintro hNot ⟨e, he, hNe, hSame⟩
        obtain ⟨hMem, hName⟩ := List.mem_filter.1 he
        exact hNot e hMem ((hKey e hMem).2
          ⟨of_decide_eq_true hName, fun hEq => hNe (congrArg some hEq), hSame.trans hScope.symm⟩)
      · intro hNot e he hSame
        obtain ⟨hName, hNe, hSame⟩ := (hKey e he).1 hSame
        exact hNot ⟨e, List.mem_filter.2 ⟨he, decide_eq_true hName⟩,
          fun hEq => hNe (Option.some.inj hEq), hSame.trans hScope⟩

end Level

/-! ### The nodes of a tree -/

/-- What a listing of some longnames holds: of the longnames and those that enclose them, none
twice, and each of them once if and only if none is crowded out by those that came before. -/
structure Lists (longnames ids : List String) : Prop where
  count_le_one : ∀ id, ids.count id ≤ 1
  mem_chunks : ∀ id ∈ ids, id ∈ chunks longnames
  all_once_iff : (∀ c ∈ chunks longnames, ids.count c = 1) ↔
    ∀ c ∈ chunks longnames, ¬ IsCrowdedOut (siblings (chunks longnames) c) c

theorem Lists.of_perm {longnames ids ids' : List String} (h : Lists longnames ids)
    (hPerm : ids'.Perm ids) : Lists longnames ids' := by
  constructor
  case count_le_one =>
    intro id
    rw [hPerm.count_eq]
    exact h.count_le_one id
  case mem_chunks => exact fun id hId => h.mem_chunks id (hPerm.mem_iff.1 hId)
  case all_once_iff =>
    rw [← h.all_once_iff]
    simp only [hPerm.count_eq]

/-- The siblings of a layered longname are the longnames behind its path. -/
theorem siblings_chunks {longnames : List String}
    (h : ∀ longname ∈ longnames, IsLayered longname) {c : String} (hc : c ∈ chunks longnames) :
    siblings (chunks longnames) c = headsAfter (Longname.pathOf c) (chainsOf longnames) := by
  rw [headsAfter_chainsOf h, siblings]
  refine List.filter_congr fun e he => ?_
  rw [decide_eq_decide]
  exact memberof_eq_iff h hc he

/-- On every level of layered longnames each holds its key exactly if none is crowded out. -/
theorem allHold_chainsOf_iff {longnames : List String}
    (h : ∀ longname ∈ longnames, IsLayered longname) : AllHold (chainsOf longnames) ↔
      ∀ c ∈ chunks longnames, ¬ IsCrowdedOut (siblings (chunks longnames) c) c := by
  have hHolds : ∀ c ∈ chunks longnames,
      (Holds (headsAfter (Longname.pathOf c) (chainsOf longnames)) c ↔
        ¬ IsCrowdedOut (siblings (chunks longnames) c) c) := by
    intro c hc
    rw [siblings_chunks h hc]
    refine holds_iff ((isForest_chainsOf h).uncrossed_headsAfter _) ?_
    simp [headsAfter_chainsOf h, hc]
  constructor
  · intro hAll c hc
    refine (hHolds c hc).1 (hAll _ c ?_)
    simp [headsAfter_chainsOf h, hc]
  · intro hNone path c hMem
    have hMem' := hMem
    rw [headsAfter_chainsOf h, List.mem_filter, decide_eq_true_eq] at hMem'
    obtain ⟨hc, rfl⟩ := hMem'
    exact (hHolds c hc).2 (hNone c hc)

theorem exists_chain_iff {longnames : List String} {c : String} :
    (∃ chain ∈ chainsOf longnames, c ∈ chain) ↔ c ∈ chunks longnames := by
  simp [chainsOf, chunks]

/-- The tree of layered longnames lists them. -/
theorem lists_names {longnames : List String} (h : ∀ longname ∈ longnames, IsLayered longname) :
    Lists longnames (names (ofLongnames longnames)) := by
  have hForest := isForest_chainsOf h
  have hNodup := nodup_names hForest
  rw [ofLongnames_eq]
  constructor
  case count_le_one => exact fun id => List.nodup_iff_count_le_one.1 hNodup id
  case mem_chunks =>
    intro id hId
    exact exists_chain_iff.1 (exists_chain_of_mem_names hForest hId)
  case all_once_iff =>
    rw [← allHold_chainsOf_iff h, ← forall_mem_names_iff hForest]
    constructor
    · intro hOnce chain hChain x hx
      have hCount := hOnce x (exists_chain_iff.1 ⟨chain, hChain, hx⟩)
      exact List.count_pos_iff.1 (by omega)
    · intro hAll c hc
      obtain ⟨chain, hChain, hMem⟩ := exists_chain_iff.2 hc
      exact List.count_eq_one_of_mem hNodup (hAll chain hChain c hMem)

end NavTree

end DocSite

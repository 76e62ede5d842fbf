import DocSite.Symbol.Index
import Mathlib.Data.List.Chain

/-! Walks outwards. From a longname a walk goes to the one that encloses it, and on from there,
until nothing encloses, nothing is known, or a longname comes that was met before. What a walk
goes along is the longest chain outwards that there is, so a walk that knows more goes at least
as far. The fuel of the chain that the index follows is never what ends it, since every step
meets one more of the longnames that are known. -/

namespace DocSite

/-- The walk outwards from a longname, with the longnames that it has met and the chain that it
goes along. It ends where nothing encloses, at a longname met before, and at an unknown one. -/
inductive Walks (outer? : String → Option (Option String)) :
    List String → Option String → List String → Prop
  | outermost (seen : List String) : Walks outer? seen none []
  | met {seen : List String} {name : String} : name ∈ seen → Walks outer? seen (some name) []
  | unknown {seen : List String} {name : String} : name ∉ seen → outer? name = none →
      Walks outer? seen (some name) []
  | step {seen chain : List String} {name : String} {next : Option String} : name ∉ seen →
      outer? name = some next → Walks outer? (name :: seen) next chain →
      Walks outer? seen (some name) (name :: chain)

/-- A chain outwards from a longname: each member encloses the one before, all are known, and
none repeats or has been met. -/
structure IsOutward (outer? : String → Option (Option String)) (seen : List String)
    (start : Option String) (chain : List String) : Prop where
  head : ∀ name ∈ chain.head?, start = some name
  next : chain.IsChain fun name outer => outer? name = some (some outer)
  known : ∀ name ∈ chain, (outer? name).isSome
  nodup : chain.Nodup
  unmet : ∀ name ∈ chain, name ∉ seen

section Walks
variable {outer? wider? : String → Option (Option String)} {seen chain other : List String}
  {start : Option String}

theorem IsOutward.nil (outer? : String → Option (Option String)) (seen : List String)
    (start : Option String) : IsOutward outer? seen start [] where
  head _ hName := by simp at hName
  next := .nil
  known _ hName := absurd hName List.not_mem_nil
  nodup := List.nodup_nil
  unmet _ hName := absurd hName List.not_mem_nil

/-- What a walk goes along is a chain outwards. -/
theorem Walks.isOutward (h : Walks outer? seen start chain) :
    IsOutward outer? seen start chain := by
  induction h with
  | outermost seen => exact .nil _ _ _
  | met hSeen => exact .nil _ _ _
  | unknown hSeen hOuter => exact .nil _ _ _
  | @step seen chain name next hSeen hOuter _ ih =>
    constructor
    case head => simp
    case next =>
      refine List.isChain_cons.2 ⟨fun outer hHead => ?_, ih.next⟩
      rw [hOuter, ih.head outer hHead]
    case known => exact List.forall_mem_cons.2 ⟨by rw [hOuter, Option.isSome_some], ih.known⟩
    case nodup =>
      exact List.nodup_cons.2 ⟨fun hName => ih.unmet name hName List.mem_cons_self, ih.nodup⟩
    case unmet =>
      refine List.forall_mem_cons.2 ⟨hSeen, fun other hOther hMet => ?_⟩
      exact ih.unmet other hOther (List.mem_cons_of_mem _ hMet)

/-- Behind its first member a chain outwards goes on from what encloses that. -/
theorem IsOutward.tail {name : String} {next : Option String} (hOuter : outer? name = some next)
    (h : IsOutward outer? seen start (name :: chain)) :
    IsOutward outer? (name :: seen) next chain := by
  obtain ⟨hFirst, hNext⟩ := List.isChain_cons.1 h.next
  obtain ⟨hNot, hNodup⟩ := List.nodup_cons.1 h.nodup
  constructor
  case head =>
    intro outer hHead
    exact Option.some.inj (hOuter.symm.trans (hFirst outer hHead))
  case next => exact hNext
  case known => exact fun other hOther => h.known other (List.mem_cons_of_mem _ hOther)
  case nodup => exact hNodup
  case unmet =>
    intro other hOther hMet
    rcases List.mem_cons.1 hMet with rfl | hSeen
    · exact hNot hOther
    · exact h.unmet other (List.mem_cons_of_mem _ hOther) hSeen

/-- A walk goes as far as any chain outwards. -/
theorem Walks.isPrefix (h : Walks outer? seen start chain)
    (hOther : IsOutward outer? seen start other) : other <+: chain := by
  induction h generalizing other with
  | outermost seen =>
    cases other with
    | nil => exact List.prefix_rfl
    | cons name other => exact absurd (hOther.head name rfl) (by simp)
  | @met seen name hSeen =>
    cases other with
    | nil => exact List.prefix_rfl
    | cons name' other =>
      obtain rfl := Option.some.inj (hOther.head name' rfl)
      exact absurd hSeen (hOther.unmet name List.mem_cons_self)
  | @unknown seen name _ hOuter =>
    cases other with
    | nil => exact List.prefix_rfl
    | cons name' other =>
      obtain rfl := Option.some.inj (hOther.head name' rfl)
      have hKnown := hOther.known name List.mem_cons_self
      rw [hOuter] at hKnown
      contradiction
  | @step seen chain name next _ hOuter _ ih =>
    cases other with
    | nil => exact List.nil_prefix
    | cons name' other =>
      obtain rfl := Option.some.inj (hOther.head name' rfl)
      exact List.cons_prefix_cons.2 ⟨rfl, ih (hOther.tail hOuter)⟩

theorem IsOutward.mono (hMore : ∀ name next, outer? name = some next → wider? name = some next)
    (h : IsOutward outer? seen start chain) : IsOutward wider? seen start chain where
  head := h.head
  next := h.next.imp fun name outer => hMore name (some outer)
  known name hName := by
    obtain ⟨next, hNext⟩ := Option.isSome_iff_exists.1 (h.known name hName)
    rw [hMore name next hNext, Option.isSome_some]
  nodup := h.nodup
  unmet := h.unmet

/-- Where more is known, a walk goes at least as far. -/
theorem Walks.isPrefix_of_imp
    (hMore : ∀ name next, outer? name = some next → wider? name = some next)
    (h : Walks outer? seen start chain) (hWider : Walks wider? seen start other) :
    chain <+: other :=
  hWider.isPrefix (h.isOutward.mono hMore)

/-- What holds of the start and of all that encloses something holds along a walk. -/
theorem Walks.forall_mem {P : String → Prop} (h : Walks outer? seen start chain)
    (hStart : ∀ name, start = some name → P name)
    (hOuter : ∀ name outer, outer? name = some (some outer) → P outer) :
    ∀ name ∈ chain, P name := by
  induction h with
  | outermost seen => simp
  | met hSeen => simp
  | unknown hSeen hNone => simp
  | @step seen chain name next _ hNext _ ih =>
    refine List.forall_mem_cons.2 ⟨hStart name rfl, ih fun outer hEq => hOuter name outer ?_⟩
    rw [hNext, hEq]

/-- The fuel suffices, if there is more of it than there are known longnames to meet: every step
meets one of these. -/
theorem walks_chainFrom {keys : List String} (hKeys : ∀ name, (outer? name).isSome → name ∈ keys)
    {fuel : ℕ} (hFuel : (keys.filter (· ∉ seen)).length < fuel) (start : Option String) :
    Walks outer? seen start (SymbolIndex.chainFrom outer? seen fuel start) := by
  induction fuel generalizing seen start with
  | zero => exact absurd hFuel (Nat.not_lt_zero _)
  | succ fuel ih =>
    cases start with
    | none => exact .outermost seen
    | some name =>
      by_cases hSeen : name ∈ seen
      · simpa [SymbolIndex.chainFrom, hSeen] using Walks.met hSeen
      · cases hOuter : outer? name with
        | none => simpa [SymbolIndex.chainFrom, hSeen, hOuter] using Walks.unknown hSeen hOuter
        | some next =>
          have hKnown : name ∈ keys := hKeys name (by rw [hOuter, Option.isSome_some])
          have hFewer : (keys.filter (· ∉ name :: seen)).length <
              (keys.filter (· ∉ seen)).length := by
            have hSplit : keys.filter (· ∉ name :: seen) =
                (keys.filter (· ∉ seen)).filter (· ≠ name) := by
              rw [List.filter_filter]
              refine List.filter_congr fun other _ => ?_
              simp
            rw [hSplit, List.length_filter_lt_length_iff_exists]
            exact ⟨name, by simp [hKnown, hSeen], by simp⟩
          have hRest := @ih (name :: seen) (by omega) next
          simpa [SymbolIndex.chainFrom, hSeen, hOuter] using Walks.step hSeen hOuter hRest

end Walks

end DocSite

import DocSite.Doclet.Store
import Mathlib.Data.List.Lex
import Mathlib.Data.String.Basic

/-! The order of the doclets of a site. They stand in ascending order of their keys, and those
with one key as they stood in the input. There is only one such order of a list, so leaving
doclets out before they are ordered comes to the same as leaving them out after. -/

namespace DocSite

/-! ### Stable orders -/

section Stable
variable {α κ : Type} [LinearOrder κ] [DecidableEq κ] (key : α → κ)

/-- A list has the elements of another one in ascending order of their keys, and those with one
key in the order that they have in the other. -/
structure SortsStably (l sorted : List α) : Prop where
  pairwise : sorted.Pairwise fun a b => key a ≤ key b
  filter_key : ∀ k, sorted.filter (key · = k) = l.filter (key · = k)

variable {key} {l sorted other : List α}

theorem SortsStably.mem_iff (h : SortsStably key l sorted) (a : α) : a ∈ sorted ↔ a ∈ l := by
  have hKey := congrArg (a ∈ ·) (h.filter_key (key a))
  simpa using hKey

/-- What is left out of a sorted list could as well be left out before. -/
theorem SortsStably.filter (h : SortsStably key l sorted) (p : α → Bool) :
    SortsStably key (l.filter p) (sorted.filter p) where
  pairwise := h.pairwise.filter p
  filter_key k := by
    rw [List.filter_comm, h.filter_key, List.filter_comm]

/-- A list can be sorted in one way only, if elements with one key keep their order. -/
theorem SortsStably.unique (h : SortsStably key l sorted) (h' : SortsStably key l other) :
    sorted = other := by
  induction sorted generalizing l other with
  | nil =>
    refine (List.eq_nil_iff_forall_not_mem.2 fun a ha => ?_).symm
    exact List.not_mem_nil ((h.mem_iff a).2 ((h'.mem_iff a).1 ha))
  | cons a sorted ih =>
    have hMem : a ∈ other := (h'.mem_iff a).2 ((h.mem_iff a).1 List.mem_cons_self)
    cases other with
    | nil => exact absurd hMem List.not_mem_nil
    | cons b other =>
      have hMem' : b ∈ a :: sorted := (h.mem_iff b).2 ((h'.mem_iff b).1 List.mem_cons_self)
      obtain ⟨hFirst, hRest⟩ := List.pairwise_cons.1 h.pairwise
      obtain ⟨hFirst', hRest'⟩ := List.pairwise_cons.1 h'.pairwise
      -- neither head has the greater key, so they head the elements of one key
      have hLe : key a ≤ key b := by
        rcases List.mem_cons.1 hMem' with rfl | hMem'
        · exact le_rfl
        · exact hFirst b hMem'
      have hLe' : key b ≤ key a := by
        rcases List.mem_cons.1 hMem with rfl | hMem
        · exact le_rfl
        · exact hFirst' a hMem
      have hSame : ∀ k, (a :: sorted).filter (key · = k) = (b :: other).filter (key · = k) :=
        fun k => (h.filter_key k).trans (h'.filter_key k).symm
      have hHead := hSame (key a)
      rw [List.filter_cons_of_pos (by simp),
        List.filter_cons_of_pos (by simpa using le_antisymm hLe' hLe)] at hHead
      obtain ⟨rfl, -⟩ := List.cons_eq_cons.1 hHead
      have hTail : ∀ k, other.filter (key · = k) = sorted.filter (key · = k) := by
        intro k
        have hBoth := hSame k
        rw [List.filter_cons, List.filter_cons] at hBoth
        split_ifs at hBoth
        · exact (List.cons_eq_cons.1 hBoth).2.symm
        · exact hBoth.symm
      rw [ih ⟨hRest, fun _ => rfl⟩ ⟨hRest', hTail⟩]

/-- A merge sort keeps the order of elements with one key. -/
theorem sortsStably_mergeSort {le : α → α → Bool} (hle : ∀ a b, le a b = true ↔ key a ≤ key b)
    (l : List α) : SortsStably key l (l.mergeSort le) := by
  have hTrans : ∀ a b c, le a b = true → le b c = true → le a c = true := by
    simp only [hle]
    exact fun _ _ _ => le_trans
  have hTotal : ∀ a b, (le a b || le b a) = true := by
    simp only [Bool.or_eq_true, hle]
    exact fun a b => le_total (key a) (key b)
  constructor
  case pairwise => exact (List.pairwise_mergeSort hTrans hTotal l).imp (hle _ _).1
  case filter_key =>
    intro k
    -- elements with one key are sorted as they stand, so they stay a part of the list
    have hSorted : (l.filter (key · = k)).Pairwise fun a b => le a b = true := by
      refine List.pairwise_filter.2 (List.pairwise_of_forall fun a b ha hb => (hle a b).2 ?_)
      rw [of_decide_eq_true ha, of_decide_eq_true hb]
    have hPart := (List.sublist_mergeSort hTrans hTotal hSorted List.filter_sublist).filter
      (key · = k)
    rw [List.filter_filter] at hPart
    simp only [Bool.and_self] at hPart
    exact (hPart.eq_of_length ((List.mergeSort_perm l le).filter _).length_eq.symm).symm

end Stable

/-! ### Doclets -/

namespace Doclet

theorem sortsBefore_iff (d e : Doclet) : sortsBefore d e = true ↔ d.sortKey ≤ e.sortKey := by
  simp [sortsBefore]

/-- The doclets that are not pruned. -/
def kept (includePrivate : Bool) (ds : List Doclet) : List Doclet :=
  ds.filter fun d => !d.isPrunable includePrivate

theorem sortsStably_arrange (p : Bool) (ds : List Doclet) :
    SortsStably sortKey (kept p ds) (arrange p ds) :=
  sortsStably_mergeSort sortsBefore_iff _

/-- Without the private ones, the doclets kept are those of the public site. -/
theorem kept_false (ds : List Doclet) :
    kept false ds = (kept true ds).filter fun d => d.access != some "private" := by
  rw [kept, kept, List.filter_filter]
  refine List.filter_congr fun d _ => ?_
  simp only [isPrunable, Bool.not_true, Bool.not_false, Bool.and_false, Bool.and_true,
    Bool.or_false, Bool.not_or, bne]
  exact Bool.and_comm _ _

/-- The doclets of a site are those of the input that are not pruned, in ascending order of
longname, version and release, and those that agree in all three stand as in the input. The
public site is the one with the private doclets, less these. -/
theorem arrange_sorts_kept (p : Bool) (ds : List Doclet) :
    (arrange p ds).Perm (ds.filter fun d => !d.isPrunable p) ∧
      (arrange p ds).Pairwise (fun d e => d.sortKey ≤ e.sortKey) ∧
      (∀ key, (arrange p ds).filter (·.sortKey = key) =
        (ds.filter fun d => !d.isPrunable p).filter (·.sortKey = key)) ∧
      arrange false ds = (arrange true ds).filter fun d => d.access != some "private" := by
  have hSorts := sortsStably_arrange p ds
  have hPublic := (sortsStably_arrange true ds).filter fun d => d.access != some "private"
  rw [← kept_false] at hPublic
  exact ⟨arrange_perm p ds, hSorts.pairwise, hSorts.filter_key,
    (sortsStably_arrange false ds).unique hPublic⟩

end Doclet

end DocSite

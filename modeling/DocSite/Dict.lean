/-! Dictionaries that keep the order in which their keys were first put in.
A dictionary is a list of entries; putting a value under a key that is there
replaces it in place, and a new key goes to the end, so no key occurs twice. -/

namespace DocSite

/-- Entries in the order of their keys' first insertion. -/
abbrev Dict (κ α : Type) := List (κ × α)

namespace Dict

variable {κ α : Type} [DecidableEq κ]

def get? (d : Dict κ α) (k : κ) : Option α :=
  match d with
  | [] => none
  | (k', v) :: rest => if k' = k then some v else get? rest k

def has (d : Dict κ α) (k : κ) : Bool := (d.get? k).isSome

/-- Puts a value under a key, in place if the key is there. -/
def put (d : Dict κ α) (k : κ) (v : α) : Dict κ α :=
  match d with
  | [] => [(k, v)]
  | (k', v') :: rest => if k' = k then (k, v) :: rest else (k', v') :: put rest k v

/-- Puts a value under a key that is not there yet, and keeps an earlier one. -/
def putNew (d : Dict κ α) (k : κ) (v : α) : Dict κ α := if d.has k then d else d ++ [(k, v)]

/-- Applies a function to the value under a key, or to `empty` if the key is new. -/
def update (d : Dict κ α) (k : κ) (empty : α) (f : α → α) : Dict κ α :=
  d.put k (f ((d.get? k).getD empty))

def keys (d : Dict κ α) : List κ := d.map (·.1)

def vals (d : Dict κ α) : List α := d.map (·.2)

/-- The dictionary of a list of entries, of which later ones win. -/
def ofEntries (entries : List (κ × α)) : Dict κ α :=
  entries.foldl (fun d entry => d.put entry.1 entry.2) []

omit [DecidableEq κ] in
@[simp] theorem keys_nil : (keys ([] : Dict κ α)) = [] := rfl

omit [DecidableEq κ] in
@[simp] theorem keys_cons (e : κ × α) (d : Dict κ α) :
    keys (e :: d : List (κ × α)) = e.1 :: keys d := rfl

@[simp] theorem get?_nil (k : κ) : get? ([] : Dict κ α) k = none := rfl

theorem get?_put_self (d : Dict κ α) (k : κ) (v : α) : (d.put k v).get? k = some v := by
  induction d with
  | nil => simp [put, get?]
  | cons e d ih =>
    simp only [put]
    split
    · simp [get?]
    · next h => simp [get?, h, ih]

theorem get?_put_ne {k l : κ} (h : k ≠ l) (d : Dict κ α) (v : α) :
    (d.put k v).get? l = d.get? l := by
  induction d with
  | nil => simp [put, get?, h]
  | cons e d ih =>
    simp only [put]
    split
    · next he => subst he; simp [get?, h]
    · simp [get?, ih]

theorem get?_put (d : Dict κ α) (k l : κ) (v : α) :
    (d.put k v).get? l = if k = l then some v else d.get? l := by
  split
  · next h => subst h; exact get?_put_self d k v
  · next h => exact get?_put_ne h d v

theorem get?_append (d e : Dict κ α) (k : κ) :
    Dict.get? (d ++ e) k = (d.get? k).or (e.get? k) := by
  induction d with
  | nil => simp
  | cons entry d ih =>
    simp only [List.cons_append, get?, ih]
    split <;> simp

theorem get?_putNew (d : Dict κ α) (k l : κ) (v : α) :
    (d.putNew k v).get? l = (d.get? l).or (if k = l then some v else none) := by
  rw [putNew, has]
  cases hOld : d.get? k with
  | some old =>
    by_cases hKey : k = l
    · rw [← hKey, Option.isSome_some, if_pos rfl, hOld, Option.some_or]
    · simp [hKey]
  | none =>
    rw [Option.isSome_none, if_neg Bool.false_ne_true, get?_append]
    simp [get?]

/-- Of two values put under a key, the later one counts. -/
@[simp] theorem put_put (d : Dict κ α) (k : κ) (v w : α) : (d.put k v).put k w = d.put k w := by
  induction d with
  | nil => simp [put]
  | cons e d ih =>
    simp only [put]
    split
    · simp [put]
    · next h => simp [put, h, ih]

/-- Putting a value back where it stands changes nothing. -/
theorem put_eq_self {d : Dict κ α} {k : κ} {v : α} (h : d.get? k = some v) : d.put k v = d := by
  induction d with
  | nil => simp at h
  | cons e d ih =>
    simp only [get?] at h
    simp only [put]
    split
    · next hKey =>
      rw [if_pos hKey] at h
      rw [← hKey, ← Option.some.inj h]
    · next hKey =>
      rw [if_neg hKey] at h
      rw [ih h]

theorem has_iff_mem_keys (d : Dict κ α) (k : κ) : d.has k = true ↔ k ∈ d.keys := by
  induction d with
  | nil => simp [has]
  | cons e d ih =>
    simp only [has, get?, keys_cons, List.mem_cons] at ih ⊢
    split
    · next h => simp [h]
    · next h => simp [ih, Ne.symm h]

theorem keys_put (d : Dict κ α) (k : κ) (v : α) :
    (d.put k v).keys = if k ∈ d.keys then d.keys else d.keys ++ [k] := by
  induction d with
  | nil => simp [put]
  | cons e d ih =>
    simp only [put]
    split
    · next h => subst h; simp
    · next h =>
      simp only [keys_cons, ih, List.mem_cons, Ne.symm h, false_or]
      split <;> simp

theorem nodup_keys_put {d : Dict κ α} (h : d.keys.Nodup) (k : κ) (v : α) :
    (d.put k v).keys.Nodup := by
  rw [keys_put]
  split
  · exact h
  · next hk => exact List.nodup_append.2 ⟨h, by simp, by grind⟩

theorem mem_of_get? {d : Dict κ α} {k : κ} {v : α} (h : d.get? k = some v) : (k, v) ∈ d := by
  induction d with
  | nil => simp at h
  | cons e d ih =>
    simp only [get?] at h
    split at h
    · next hKey =>
      obtain rfl := Option.some.inj h
      rw [← hKey]
      exact List.mem_cons_self
    · exact List.mem_cons_of_mem _ (ih h)

theorem mem_vals_of_get? {d : Dict κ α} {k : κ} {v : α} (h : d.get? k = some v) :
    v ∈ d.vals :=
  List.mem_map_of_mem (mem_of_get? h)

theorem mem_vals_put {d : Dict κ α} {k : κ} {v w : α} (h : w ∈ (d.put k v).vals) :
    w = v ∨ w ∈ d.vals := by
  induction d with
  | nil => simpa [put, vals] using h
  | cons e d ih =>
    simp only [put] at h
    split at h
    · exact (List.mem_cons.1 h).imp_right (List.mem_cons_of_mem _)
    · rcases List.mem_cons.1 h with rfl | hRest
      · exact .inr List.mem_cons_self
      · exact (ih hRest).imp_right (List.mem_cons_of_mem _)

theorem mem_keys_of_get? {d : Dict κ α} {k : κ} {v : α} (h : d.get? k = some v) : k ∈ d.keys := by
  rw [← has_iff_mem_keys, has, h, Option.isSome_some]

theorem mem_iff_get? {d : Dict κ α} (h : d.keys.Nodup) {k : κ} {v : α} :
    (k, v) ∈ d ↔ d.get? k = some v := by
  induction d with
  | nil => simp
  | cons e d ih =>
    rw [keys_cons, List.nodup_cons] at h
    have ih := ih h.2
    by_cases hKey : e.1 = k
    · have hNot : (k, v) ∉ d := by
        intro hMem
        exact h.1 (hKey ▸ List.mem_map_of_mem hMem)
      simp [get?, hKey, hNot, Prod.ext_iff, eq_comm]
    · simp [get?, hKey, ih, Prod.ext_iff, Ne.symm hKey]

end Dict

end DocSite

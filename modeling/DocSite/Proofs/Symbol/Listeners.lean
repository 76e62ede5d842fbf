import DocSite.Proofs.Symbol.Finished

/-! The listeners of events. A symbol is filed under an event once for each time that its doclet
names the event, whether the event has been seen by then or not. When the index is finished,
an event gets the longnames of all that is filed under its own, each where it comes first, so
its listeners are known from the doclets alone. -/

namespace DocSite

namespace Doclet

/-- The longname of the doclet, if the doclet names the event among those that it listens to. -/
def listeningName? (event : String) (d : Doclet) : Option String :=
  if event ∈ d.listens.getD [] then d.longname else none

/-- The longnames of the doclets that listen to an event, each where it comes first. -/
def listeningTo (event : String) (doclets : List Doclet) : List String :=
  (doclets.filterMap (listeningName? event)).eraseDups

theorem listeningName?_eq (event : String) (d : Doclet) :
    d.listeningName? event = if 0 < d.timesListening event then d.longname else none := by
  simp only [listeningName?, timesListening, List.count_pos_iff]

end Doclet

namespace SymbolIndex

/-! ### Names once each -/

theorem foldl_withName (names : List String) : names.foldl withName [] = names.eraseDups := by
  induction names using List.reverseRecOn with
  | nil => rfl
  | append_singleton names name ih =>
    rw [List.foldl_append, ih, eraseDups_concat, List.foldl_cons, List.foldl_nil, withName]
    simp

theorem eraseDups_append_replicate {α : Type} [DecidableEq α] (xs : List α) (x : α) (n : ℕ) :
    (xs ++ List.replicate (n + 1) x).eraseDups = (xs ++ [x]).eraseDups := by
  induction n with
  | zero => rfl
  | succ n ih =>
    have hMem : x ∈ xs ++ List.replicate (n + 1) x := by simp
    rw [List.replicate_succ', ← List.append_assoc, eraseDups_concat, if_pos hMem, ih]

/-- A name that may be missing is appended, as often as it may be, and then left once. -/
theorem eraseDups_append_times {xs ys : List String} (h : xs.eraseDups = ys.eraseDups)
    (name? : Option String) (n : ℕ) :
    (xs ++ (List.replicate n name?).filterMap id).eraseDups =
      (ys ++ (if 0 < n then name? else none).toList).eraseDups := by
  cases name? with
  | none => simp [h]
  | some name =>
    cases n with
    | zero => simpa using h
    | succ n =>
      have hMem : name ∈ xs ↔ name ∈ ys := by
        rw [← List.mem_eraseDups, h, List.mem_eraseDups]
      simp only [List.filterMap_replicate, id, eraseDups_append_replicate, eraseDups_concat, hMem,
        h, Nat.succ_pos, ↓reduceIte, Option.toList_some]

/-- The longnames that are filed under an event, as often as the doclets name it. -/
def listeningNames (event : String) (doclets : List Doclet) : List String :=
  doclets.flatMap fun d => (List.replicate (d.timesListening event) d.longname).filterMap id

theorem filterMap_listenings (event : String) (doclets : List Doclet) :
    (listenings event doclets).filterMap (fun place => doclets[place]?.bind Doclet.longname) =
      listeningNames event doclets := by
  have hFirst : listeningNames event doclets = doclets.zipIdx.flatMap fun entry =>
      (List.replicate (entry.1.timesListening event) entry.1.longname).filterMap id := by
    rw [listeningNames, ← List.zipIdx_map_fst 0 doclets, List.flatMap_map, List.zipIdx_map_fst]
  rw [hFirst, listenings, List.filterMap_flatMap]
  refine List.flatMap_congr fun entry hMem => ?_
  have hAt : doclets[entry.2]? = some entry.1 := List.mem_zipIdx_iff_getElem?.1 hMem
  simp [List.filterMap_replicate, hAt]

/-- Of each longname one is left, however often a doclet names the event. -/
theorem eraseDups_listeningNames (event : String) (doclets : List Doclet) :
    (listeningNames event doclets).eraseDups = Doclet.listeningTo event doclets := by
  induction doclets using List.reverseRecOn with
  | nil => rfl
  | append_singleton doclets d ih =>
    have hName : [d].filterMap (Doclet.listeningName? event) =
        (if 0 < d.timesListening event then d.longname else none).toList := by
      rw [← Doclet.listeningName?_eq]
      cases hName : d.listeningName? event <;> simp [hName]
    rw [listeningNames, List.flatMap_append, List.flatMap_singleton, Doclet.listeningTo,
      List.filterMap_append, hName]
    exact eraseDups_append_times ih d.longname (d.timesListening event)

/-! ### Finished indexes -/

/-- The listeners that an event gets are those of the doclets that listen to it. -/
theorem listenersTo_ingest (r : LinkRegistry) (registersSources : Bool) (ds : List Doclet)
    (event : Symbol) :
    ((empty r registersSources).ingest ds).listenersTo event =
      Doclet.listeningTo (event.longname.getD "")
        ((empty r registersSources).ingest ds).doclets := by
  rw [listenersTo_eq, get_listeners_ingest, foldl_withName,
    ← eraseDups_listeningNames, ← filterMap_listenings]
  rfl

/-- When any doclets have been indexed, the index can be finished, and then an event has as its
listeners the longnames of the retained symbols that listen to its longname, each where it
comes first; what is no event has none. -/
theorem listeners_gathered (r : LinkRegistry) (registersSources : Bool) (ds : List Doclet) :
    ∃ ix, ((empty r registersSources).ingest ds).finalize = .ok ix ∧
      ix.doclets = ds.filter Doclet.isRetained ∧
      ∀ s ∈ ix.retained, s.listeners = if s.doclet.kind = "event" then
        Doclet.listeningTo (s.longname.getD "") ix.doclets else [] := by
  obtain ⟨ix, hFinalize⟩ := ((isOpen_empty r registersSources).ingest ds).exists_finalize
  have hDoclets := (finishes_of_finalize hFinalize).doclets_eq
  refine ⟨ix, hFinalize, hDoclets.trans (doclets_ingest r registersSources ds),
    fun s hs => ?_⟩
  obtain ⟨place, hEq⟩ := exists_of_mem_finalize hFinalize hs
  have hListeners : s.listeners = if s.doclet.category? == some .events then
      ((empty r registersSources).ingest ds).listenersTo (.ofDoclet s.doclet) else [] :=
    congrArg Symbol.listeners hEq
  rw [hListeners, listenersTo_ingest, Symbol.longname, Symbol.doclet_ofDoclet, Symbol.longname,
    hDoclets]
  simp only [beq_iff_eq, Doclet.category?_eq_some_iff_kind (by decide) (by decide)
    Category.ofKind?_eq_events_iff]

end SymbolIndex

end DocSite

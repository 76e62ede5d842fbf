import DocSite.Proofs.Symbol.Filing

/-! What becomes of a doclet that is added. If it is retained, one symbol comes to the end, made
of the doclet alone but for its ancestors, which depend on what is filed by then; the symbols
before it stay as they are. So every symbol of an index was its last one once, right after its
doclet had been added. -/

namespace DocSite

namespace SymbolIndex

variable (ix : SymbolIndex) {d : Doclet}

/-- The index in which the symbol of a doclet has been filed but is not retained yet. -/
def withFiled (d : Doclet) : SymbolIndex :=
  if d.isExportCandidate then { ix with exportCandidates := ix.exportCandidates ++ [ix.nextPlace] }
  else match d.category? with
    | none => ix
    | some c => ix.fileSymbol (.ofDoclet d) c

/-- The symbol that a doclet becomes. -/
def symbolOf (d : Doclet) : Symbol :=
  { Symbol.ofDoclet d with
    see := (d.see.getD []).map (Symbol.seeEntry d.longname)
    ancestors := (ix.withFiled d).ancestorsOf (.ofDoclet d) }

@[simp] theorem doclet_symbolOf (d : Doclet) : (ix.symbolOf d).doclet = d := rfl

theorem add_of_isRetained (h : d.isRetained = true) :
    (ix.add d).2 = (ix.withFiled d).retain (.ofDoclet d) := by
  unfold SymbolIndex.add withFiled
  cases hCandidate : d.isExportCandidate with
  | true => rfl
  | false =>
    cases hCategory : d.category? with
    | none =>
      rw [Doclet.not_isRetained hCandidate hCategory] at h
      contradiction
    | some c => rfl

theorem add_of_not_isRetained (h : d.isRetained = false) :
    (ix.add d).2 = { ix with skipped := ix.skipped ++ [d] } := by
  obtain ⟨hCandidate, hKind⟩ : d.isExportCandidate = false ∧
      (Category.ofKind? d.kind).isSome = false := by
    simpa [Doclet.isRetained] using h
  have hCategory : d.category? = none := by simpa [Doclet.category?, hCandidate] using hKind
  simp only [SymbolIndex.add, hCandidate, hCategory, Bool.false_eq_true, ↓reduceIte]

/-- Filing writes the tables that find symbols and the list of what is held back, and that is
all. -/
theorem withFiled_eq (d : Doclet) :
    ∃ symbols globals byLongname byMemberof outputLongnames exportCandidates,
      ix.withFiled d = { ix with
        symbols, globals, byLongname, byMemberof, outputLongnames, exportCandidates } := by
  unfold withFiled
  split_ifs
  · exact ⟨_, _, _, _, _, _, rfl⟩
  · split
    · exact ⟨_, _, _, _, _, _, rfl⟩
    · exact ⟨_, _, _, _, _, _, ix.fileSymbol_eq _ _⟩

theorem retained_withFiled (d : Doclet) : (ix.withFiled d).retained = ix.retained := by
  obtain ⟨_, _, _, _, _, _, hFiled⟩ := ix.withFiled_eq d
  rw [hFiled]

theorem doclets_withFiled (d : Doclet) : (ix.withFiled d).doclets = ix.doclets := by
  rw [doclets, doclets, retained_withFiled]

/-- Neither the listeners nor the source files are asked for ancestors. -/
theorem ancestorsOf_filed (s t : Symbol) :
    ((ix.fileListener s).fileSource s).ancestorsOf t = ix.ancestorsOf t := by
  unfold fileSource
  cases s.sourcePath <;> rfl

theorem retained_retain (s : Symbol) : (ix.retain s).retained = ix.retained ++
    [{ s with
       see := (s.doclet.see.getD []).map (Symbol.seeEntry s.longname)
       ancestors := ix.ancestorsOf s }] := by
  rw [← ix.ancestorsOf_filed s s]
  unfold SymbolIndex.retain fileSource
  cases s.sourcePath <;> rfl

/-- A doclet that is retained adds its symbol at the end, and any other none. -/
theorem retained_add (d : Doclet) : (ix.add d).2.retained =
    ix.retained ++ if d.isRetained then [ix.symbolOf d] else [] := by
  cases h : d.isRetained with
  | true =>
    rw [add_of_isRetained _ h, retained_retain, retained_withFiled]
    rfl
  | false =>
    rw [add_of_not_isRetained _ h]
    simp

theorem doclets_add (h : d.isRetained = true) : (ix.add d).2.doclets = ix.doclets ++ [d] := by
  rw [doclets, retained_add, h, if_pos rfl, List.map_append]
  rfl

theorem nextPlace_add (d : Doclet) :
    (ix.add d).2.nextPlace = ix.nextPlace + if d.isRetained then 1 else 0 := by
  rw [nextPlace, nextPlace, retained_add, List.length_append]
  cases d.isRetained <;> rfl

theorem symbolAt?_add (h : d.isRetained = true) :
    (ix.add d).2.symbolAt? ix.nextPlace = some (ix.symbolOf d) := by
  rw [symbolAt?, retained_add, if_pos h, nextPlace, List.getElem?_concat_length]

theorem ingest_concat (ds : List Doclet) (d : Doclet) :
    ix.ingest (ds ++ [d]) = ((ix.ingest ds).add d).2 := by
  rw [ingest_append, ingest_cons, ingest_nil]

theorem retained_isPrefix_ingest (ds : List Doclet) :
    ix.retained <+: (ix.ingest ds).retained := by
  induction ds generalizing ix with
  | nil => exact List.prefix_rfl
  | cons d ds ih =>
    refine List.IsPrefix.trans ?_ (ih (ix.add d).2)
    rw [retained_add]
    exact List.prefix_append _ _

theorem doclets_isPrefix_ingest (ds : List Doclet) : ix.doclets <+: (ix.ingest ds).doclets :=
  (ix.retained_isPrefix_ingest ds).map _

variable {ix} {ds : List Doclet} {place : ℕ} {s : Symbol}

theorem symbolAt?_ingest (h : ix.symbolAt? place = some s) (ds : List Doclet) :
    (ix.ingest ds).symbolAt? place = some s := by
  obtain ⟨more, hMore⟩ := ix.retained_isPrefix_ingest ds
  rw [symbolAt?, ← hMore, List.getElem?_append_left (List.getElem?_eq_some_iff.1 h).1]
  exact h

/-- A symbol that has been added is what a doclet became when it was added. -/
theorem exists_of_symbolAt?_ingest (hNew : ix.nextPlace ≤ place)
    (h : (ix.ingest ds).symbolAt? place = some s) :
    ∃ earlier d later, ds = earlier ++ d :: later ∧ d.isRetained = true ∧
      place = (ix.ingest earlier).nextPlace ∧ s = (ix.ingest earlier).symbolOf d := by
  induction ds generalizing ix with
  | nil =>
    have hLt := (List.getElem?_eq_some_iff.1 h).1
    exact absurd hNew (Nat.not_le.2 hLt)
  | cons d ds ih =>
    by_cases hNext : (ix.add d).2.nextPlace ≤ place
    · obtain ⟨earlier, e, later, rfl, hRest⟩ := ih hNext h
      exact ⟨d :: earlier, e, later, rfl, hRest⟩
    · -- the symbol is the one that this doclet became
      rw [nextPlace_add] at hNext
      cases hKept : d.isRetained with
      | false =>
        rw [hKept, if_neg Bool.false_ne_true, Nat.add_zero] at hNext
        exact absurd hNew hNext
      | true =>
        rw [hKept, if_pos rfl] at hNext
        obtain rfl : place = ix.nextPlace := by omega
        have hSame := (symbolAt?_ingest (ix.symbolAt?_add hKept) ds).symm.trans h
        exact ⟨[], d, ds, rfl, hKept, rfl, (Option.some.inj hSame).symm⟩

/-- A retained symbol holds nothing beyond its doclet but its see list and its ancestors. -/
theorem eq_ofDoclet_of_mem_ingest {r : LinkRegistry} {registersSources : Bool}
    (h : s ∈ ((empty r registersSources).ingest ds).retained) :
    s = { Symbol.ofDoclet s.doclet with see := s.see, ancestors := s.ancestors } := by
  obtain ⟨place, hPlace, rfl⟩ := List.getElem_of_mem h
  obtain ⟨earlier, d, later, -, -, -, hEq⟩ :=
    exists_of_symbolAt?_ingest (Nat.zero_le place) (List.getElem?_eq_getElem hPlace)
  rw [hEq]
  rfl

end SymbolIndex

end DocSite

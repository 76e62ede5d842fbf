import DocSite.Symbol.Index
import Mathlib.Data.List.Basic
import Mathlib.Data.List.Induction

/-! What the tables of an index hold. A doclet that is added is written to up to six tables,
but after any sequence of doclets each table is a function of the sequence alone: it lists
the places of the retained doclets of one category, under one longname, in one enclosing
longname or with one event, in their order. Nothing is filed under a key without a symbol. -/

namespace DocSite

namespace Doclet

/-- Whether the doclet becomes a symbol. -/
def isRetained (d : Doclet) : Bool := d.isExportCandidate || (Category.ofKind? d.kind).isSome

/-- Whether the doclet is listed under a category, by its kind; what a module exports is not. -/
def isIn (c : Category) (d : Doclet) : Bool :=
  !d.isExportCandidate && Category.ofKind? d.kind == some c

/-- Whether the doclet is found by a longname. -/
def isNamed (longname : String) (d : Doclet) : Bool :=
  !d.isGlobal && d.longname == some longname

/-- Whether the doclet is found by the longname that encloses it. -/
def isMember (memberof : String) (d : Doclet) : Bool :=
  !d.isGlobal && d.longname.isSome && d.memberof == some memberof

/-- How often the doclet says that it listens to an event. -/
def timesListening (event : String) (d : Doclet) : ℕ := (d.listens.getD []).count event

/-- The longname of the doclet, if its category asks for a page of that longname. -/
def ownPage? (d : Doclet) : Option String :=
  if d.category?.any Category.hasPage then d.longname else none

theorem category?_eq_some_iff {d : Doclet} {c : Category} :
    d.category? = some c ↔ d.isIn c = true := by
  cases h : d.isExportCandidate <;> simp [category?, isIn, h]

theorem category?_of_isExportCandidate {d : Doclet} (h : d.isExportCandidate = true) :
    d.category? = none := by
  simp [category?, h]

theorem isRetained_of_category? {d : Doclet} {c : Category} (h : d.category? = some c) :
    d.isRetained = true := by
  simp_all [category?_eq_some_iff, isIn, isRetained]

theorem not_isRetained {d : Doclet} (hCandidate : d.isExportCandidate = false)
    (hCategory : d.category? = none) : d.isRetained = false := by
  simp_all [category?, isRetained]

/-- Symbols on the page of globals have no page of their own. -/
theorem not_hasPage_of_isGlobal {d : Doclet} {c : Category} (h : d.isGlobal = true)
    (hCategory : d.category? = some c) : c.hasPage = false := by
  have hKind : d.kind ∈ globalKinds := by simp_all [isGlobal]
  have hOf : Category.ofKind? d.kind = some c := by
    simp_all [category?_eq_some_iff, isIn]
  simp only [globalKinds, List.mem_cons, List.not_mem_nil, or_false] at hKind
  rcases hKind with hKind | hKind | hKind | hKind <;> rw [hKind] at hOf <;>
    obtain rfl := Option.some.inj hOf <;> rfl

end Doclet

namespace Bucket

/-- The bucket of some entries, unless there are none. -/
def ofEntries? (entries : List (Category × ℕ)) : Option Bucket :=
  if entries.isEmpty then none else some ⟨entries⟩

@[simp] theorem getD_ofEntries? (entries : List (Category × ℕ)) :
    (ofEntries? entries).getD {} = ⟨entries⟩ := by
  cases entries <;> rfl

theorem ofEntries?_concat (entries : List (Category × ℕ)) (c : Category) (place : ℕ) :
    ofEntries? (entries ++ [(c, place)]) = some ((⟨entries⟩ : Bucket).add place c) := by
  cases entries <;> rfl

theorem hasSymbols_of_ofEntries? {entries : List (Category × ℕ)} {b : Bucket}
    (h : ofEntries? entries = some b) : b.hasSymbols none = true := by
  cases entries with
  | nil => simp [ofEntries?] at h
  | cons e entries =>
    obtain rfl := Option.some.inj h
    rfl

end Bucket

namespace SymbolIndex

/-! ### Tables of a list of doclets -/

/-- The category and the place of each of some doclets that is kept and has a category. -/
def filings (keep : Doclet → Bool) (doclets : List Doclet) : List (Category × ℕ) :=
  doclets.zipIdx.filterMap fun (d, place) =>
    if keep d then d.category?.map (·, place) else none

/-- The place of each of some doclets, as often as it listens to an event. -/
def listenings (event : String) (doclets : List Doclet) : List ℕ :=
  doclets.zipIdx.flatMap fun (d, place) => .replicate (d.timesListening event) place

/-- The longnames of some doclets that have pages, each where it comes first. -/
def ownPages (doclets : List Doclet) : List String :=
  (doclets.filterMap Doclet.ownPage?).eraseDups

theorem eraseDups_concat {α : Type} [DecidableEq α] (xs : List α) (x : α) :
    (xs ++ [x]).eraseDups = if x ∈ xs then xs.eraseDups else xs.eraseDups ++ [x] := by
  rw [List.eraseDups_append]
  by_cases h : x ∈ xs <;> simp [List.removeAll, h, List.eraseDups_cons]

section Concat
variable (keep : Doclet → Bool) (doclets : List Doclet) (d : Doclet)

theorem filings_concat : filings keep (doclets ++ [d]) = filings keep doclets ++
    if keep d then (d.category?.map (·, doclets.length)).toList else [] := by
  cases hKeep : keep d <;> cases hCategory : d.category? <;>
    simp [filings, List.zipIdx_append, hKeep, hCategory]

theorem filings_concat_of_none (h : d.category? = none) :
    filings keep (doclets ++ [d]) = filings keep doclets := by
  simp [filings_concat, h]

theorem filings_concat_of_some {c : Category} (h : d.category? = some c) :
    filings keep (doclets ++ [d]) =
      filings keep doclets ++ if keep d then [(c, doclets.length)] else [] := by
  simp [filings_concat, h]

theorem listenings_concat (event : String) : listenings event (doclets ++ [d]) =
    listenings event doclets ++ .replicate (d.timesListening event) doclets.length := by
  simp [listenings, List.zipIdx_append]

theorem ownPages_concat : ownPages (doclets ++ [d]) = match d.ownPage? with
    | some longname =>
      if longname ∈ ownPages doclets then ownPages doclets else ownPages doclets ++ [longname]
    | none => ownPages doclets := by
  cases hPage : d.ownPage? with
  | none => simp [ownPages, hPage]
  | some longname =>
    simp only [ownPages, List.filterMap_append, List.filterMap_cons, List.filterMap_nil, hPage,
      eraseDups_concat, List.mem_eraseDups]

end Concat

/-- The bucket of the filings has in each category the places of the doclets kept. -/
theorem get_filings (keep : Doclet → Bool) (doclets : List Doclet) (c : Category) :
    (⟨filings keep doclets⟩ : Bucket).get c = doclets.findIdxs fun d => keep d && d.isIn c := by
  induction doclets using List.reverseRecOn with
  | nil => rfl
  | append_singleton doclets d ih =>
    rw [List.findIdxs_append, ← ih]
    cases hCategory : d.category? with
    | none =>
      have hNot : d.isIn c = false := by
        rw [← Bool.not_eq_true, ← Doclet.category?_eq_some_iff, hCategory]
        exact Option.some_ne_none _ ∘ Eq.symm
      simp [filings_concat_of_none, hCategory, hNot]
    | some c' =>
      have hIn : d.isIn c = decide (c' = c) := by
        rw [Bool.eq_iff_iff, ← Doclet.category?_eq_some_iff, hCategory]
        simp
      by_cases hKeep : keep d = true <;> by_cases hc : c' = c <;>
        simp [filings_concat_of_some, hCategory, hIn, hKeep, hc, Bucket.get]

/-- A table that has under every key the bucket of the entries for that key. -/
def Tabulates (table : Dict String Bucket) (entries : String → List (Category × ℕ)) : Prop :=
  ∀ key, table.get? key = Bucket.ofEntries? (entries key)

/-- A table with a symbol filed under each of some keys. -/
def fileUnder (place : ℕ) (c : Category) (table : Dict String Bucket) (keys : List String) :
    Dict String Bucket :=
  keys.foldl (fun table key => table.update key {} (·.add place c)) table

namespace Tabulates

variable {table : Dict String Bucket} {entries entries' : String → List (Category × ℕ)}

theorem nil : Tabulates [] fun _ => [] := fun _ => rfl

theorem congr (h : Tabulates table entries) (hEq : ∀ key, entries' key = entries key) :
    Tabulates table entries' := by
  intro key
  rw [hEq]
  exact h key

theorem getD (h : Tabulates table entries) (key : String) :
    (table.get? key).getD {} = ⟨entries key⟩ := by
  rw [h key, Bucket.getD_ofEntries?]

/-- One symbol more is filed under one key. -/
theorem update (h : Tabulates table entries) (key : String) (c : Category) (place : ℕ) :
    Tabulates (table.update key {} (·.add place c)) fun other =>
      entries other ++ if other = key then [(c, place)] else [] := by
  intro other
  rw [Dict.update, Dict.get?_put, h.getD]
  by_cases hKey : key = other
  · subst hKey
    simp [Bucket.ofEntries?_concat]
  · simp [hKey, Ne.symm hKey, h other]

/-- One symbol is filed under some keys, as often as each is listed. -/
theorem fileUnder (h : Tabulates table entries) (place : ℕ) (c : Category) (keys : List String) :
    Tabulates (fileUnder place c table keys) fun key =>
      entries key ++ .replicate (keys.count key) (c, place) := by
  induction keys generalizing table entries with
  | nil => exact h.congr fun key => by simp
  | cons key keys ih =>
    refine (ih (h.update key c place)).congr fun other => ?_
    by_cases hKey : other = key
    · simp [hKey, List.replicate_succ]
    · simp [hKey, Ne.symm hKey]

/-- Nothing is kept under a key without a symbol. -/
theorem hasSymbols (h : Tabulates table entries) {key : String} {b : Bucket}
    (hBucket : table.get? key = some b) : b.hasSymbols none = true :=
  Bucket.hasSymbols_of_ofEntries? ((h key).symm.trans hBucket)

end Tabulates

/-! ### Adding a doclet -/

variable (ix : SymbolIndex)

/-- The doclets of the retained symbols. -/
def doclets : List Doclet := ix.retained.map Symbol.doclet

theorem length_doclets : ix.doclets.length = ix.nextPlace := List.length_map _

/-- The longname that a symbol is filed under; a global one is filed under none. -/
def filedName? (s : Symbol) : Option String := if s.isGlobal then none else s.longname

/-- The writes of a filing: each table gets the symbol under the keys that it has there. -/
theorem fileSymbol_eq (s : Symbol) (c : Category) : ix.fileSymbol s c =
    { ix with
      symbols := ix.symbols.add ix.nextPlace c
      globals := if s.isGlobal then ix.globals.add ix.nextPlace c else ix.globals
      byLongname := fileUnder ix.nextPlace c ix.byLongname (filedName? s).toList
      byMemberof := fileUnder ix.nextPlace c ix.byMemberof
        ((filedName? s).bind fun _ => s.memberof).toList
      outputLongnames := match filedName? s with
        | some longname =>
          if c.hasPage && !ix.outputLongnames.contains longname then
            ix.outputLongnames ++ [longname]
          else ix.outputLongnames
        | none => ix.outputLongnames } := by
  unfold fileSymbol filedName?
  cases hGlobal : s.isGlobal with
  | true => rfl
  | false =>
    cases s.longname with
    | none => rfl
    | some longname =>
      cases hNew : c.hasPage && !ix.outputLongnames.contains longname <;> cases s.memberof <;>
        simp only [Bool.false_eq_true, ↓reduceIte, hNew] <;> rfl

/-- The writes of retaining a symbol: it is filed under the events that it listens to. -/
theorem retain_eq (s : Symbol) : ∃ s' shortPaths, s'.doclet = s.doclet ∧ ix.retain s =
    { ix with
      retained := ix.retained ++ [s']
      listeners := fileUnder ix.nextPlace .listeners ix.listeners (s.doclet.listens.getD [])
      shortPaths } := by
  let filed := (ix.fileListener s).fileSource s
  let s' := { s with
    see := (s.doclet.see.getD []).map (Symbol.seeEntry s.longname)
    ancestors := filed.ancestorsOf s }
  have hFiled : filed = { ix with
      listeners := fileUnder ix.nextPlace .listeners ix.listeners (s.doclet.listens.getD [])
      shortPaths := filed.shortPaths } := by
    simp only [filed, fileSource]
    cases s.sourcePath <;> rfl
  refine ⟨s', filed.shortPaths, rfl, ?_⟩
  calc ix.retain s = { filed with retained := filed.retained ++ [s'] } := rfl
    _ = _ := by rw [hFiled]

theorem doclets_retain (s : Symbol) : (ix.retain s).doclets = ix.doclets ++ [s.doclet] := by
  obtain ⟨s', shortPaths, hDoclet, hRetain⟩ := ix.retain_eq s
  rw [hRetain, ← hDoclet]
  exact List.map_append ..

/-- What the tables by category hold when some doclets have been filed. -/
structure HasFiled (ix : SymbolIndex) (doclets : List Doclet) : Prop where
  symbols : ix.symbols = ⟨filings (fun _ => true) doclets⟩
  globals : ix.globals = ⟨filings Doclet.isGlobal doclets⟩
  byLongname : Tabulates ix.byLongname fun longname => filings (Doclet.isNamed longname) doclets
  byMemberof : Tabulates ix.byMemberof fun memberof => filings (Doclet.isMember memberof) doclets
  outputLongnames : ix.outputLongnames = ownPages doclets

/-- What an index holds when some doclets have been added to one without symbols. -/
structure HasAdded (ix : SymbolIndex) (added : List Doclet) : Prop where
  doclets : ix.doclets = added.filter Doclet.isRetained
  skipped : ix.skipped = added.filter fun d => !d.isRetained
  filed : ix.HasFiled ix.doclets
  listeners : Tabulates ix.listeners fun event =>
    (listenings event ix.doclets).map (Category.listeners, ·)

theorem hasAdded_empty (r : LinkRegistry) (registersSources : Bool) :
    (empty r registersSources).HasAdded [] where
  doclets := rfl
  skipped := rfl
  filed := { symbols := rfl, globals := rfl, byLongname := .nil, byMemberof := .nil,
             outputLongnames := rfl }
  listeners := .nil

theorem replicate_count_toList {α β : Type} [DecidableEq α] (o : Option α) (a : α) (b : β) :
    List.replicate (o.toList.count a) b = if o = some a then [b] else [] := by
  cases o with
  | none => simp
  | some a' => by_cases h : a' = a <;> simp [h]

variable {ix} {added doclets : List Doclet} {d : Doclet}

/-- A doclet without a category is filed nowhere. -/
theorem HasFiled.append_none (h : ix.HasFiled doclets) (hNone : d.category? = none) :
    ix.HasFiled (doclets ++ [d]) where
  symbols := by rw [filings_concat_of_none _ _ _ hNone, h.symbols]
  globals := by rw [filings_concat_of_none _ _ _ hNone, h.globals]
  byLongname := h.byLongname.congr fun _ => filings_concat_of_none _ _ _ hNone
  byMemberof := h.byMemberof.congr fun _ => filings_concat_of_none _ _ _ hNone
  outputLongnames := by
    have hPage : d.ownPage? = none := by simp [Doclet.ownPage?, hNone]
    rw [ownPages_concat, hPage, h.outputLongnames]

theorem filedName?_ofDoclet_eq_some_iff {longname : String} :
    filedName? (.ofDoclet d) = some longname ↔ d.isNamed longname = true := by
  cases h : d.isGlobal <;>
    simp [filedName?, Doclet.isNamed, Symbol.isGlobal, Symbol.longname, h]

theorem filedName?_bind_memberof_eq_some_iff {memberof : String} :
    ((filedName? (.ofDoclet d)).bind fun _ => (Symbol.ofDoclet d).memberof) = some memberof ↔
      d.isMember memberof = true := by
  cases h : d.isGlobal <;> cases hName : d.longname <;>
    simp [filedName?, Doclet.isMember, Symbol.isGlobal, Symbol.longname, Symbol.memberof, h, hName]

/-- A doclet is filed under the longname of its own page. -/
theorem ownPage?_eq {c : Category} (hCategory : d.category? = some c) :
    d.ownPage? = if c.hasPage then filedName? (.ofDoclet d) else none := by
  cases hGlobal : d.isGlobal with
  | false =>
    simp [Doclet.ownPage?, hCategory, filedName?, Symbol.isGlobal, Symbol.longname, hGlobal]
  | true => simp [Doclet.ownPage?, hCategory, Doclet.not_hasPage_of_isGlobal hGlobal hCategory]

/-- A symbol with a category is filed in every table by category. -/
theorem HasFiled.append_some (h : ix.HasFiled doclets) (hPlace : ix.nextPlace = doclets.length)
    {c : Category} (hCategory : d.category? = some c) :
    (ix.fileSymbol (.ofDoclet d) c).HasFiled (doclets ++ [d]) := by
  rw [fileSymbol_eq, hPlace]
  constructor
  case symbols =>
    rw [filings_concat_of_some _ _ _ hCategory, h.symbols]
    rfl
  case globals =>
    rw [filings_concat_of_some _ _ _ hCategory, h.globals]
    cases hGlobal : d.isGlobal <;> simp [Symbol.isGlobal, hGlobal, Bucket.add]
  case byLongname =>
    refine (h.byLongname.fileUnder _ c _).congr fun longname => ?_
    rw [filings_concat_of_some _ _ _ hCategory, replicate_count_toList]
    simp only [filedName?_ofDoclet_eq_some_iff]
  case byMemberof =>
    refine (h.byMemberof.fileUnder _ c _).congr fun memberof => ?_
    rw [filings_concat_of_some _ _ _ hCategory, replicate_count_toList]
    simp only [filedName?_bind_memberof_eq_some_iff]
  case outputLongnames =>
    rw [ownPages_concat, ownPage?_eq hCategory, h.outputLongnames]
    cases filedName? (.ofDoclet d) with
    | none => simp
    | some longname =>
      cases c.hasPage <;> by_cases hMem : longname ∈ ownPages doclets <;> simp [hMem]

/-- A retained symbol comes last, and changes the listeners only. -/
theorem HasAdded.retain (h : ix.HasAdded added) {ix' : SymbolIndex} (s : Symbol)
    (hDoclets : ix'.doclets = ix.doclets) (hSkipped : ix'.skipped = ix.skipped)
    (hListeners : ix'.listeners = ix.listeners) (hKept : s.doclet.isRetained = true)
    (hFiled : ix'.HasFiled (ix.doclets ++ [s.doclet])) :
    (ix'.retain s).HasAdded (added ++ [s.doclet]) := by
  obtain ⟨s', shortPaths, -, hRetain⟩ := ix'.retain_eq s
  have hNext : (ix'.retain s).doclets = ix.doclets ++ [s.doclet] := by
    rw [doclets_retain, hDoclets]
  constructor
  case doclets => simp [hNext, h.doclets, hKept]
  case skipped => simp [hRetain, hSkipped, h.skipped, hKept]
  case filed =>
    rw [hNext, hRetain]
    exact { hFiled with }
  case listeners =>
    have hPlace : ix'.nextPlace = ix.doclets.length := by rw [← hDoclets, length_doclets]
    rw [hNext, hRetain, hListeners, hPlace]
    refine (h.listeners.fileUnder _ .listeners _).congr fun event => ?_
    rw [listenings_concat, List.map_append, List.map_replicate, Doclet.timesListening]

/-- What an index holds stays true when a doclet is added. -/
theorem HasAdded.add (h : ix.HasAdded added) (d : Doclet) :
    (ix.add d).2.HasAdded (added ++ [d]) := by
  unfold SymbolIndex.add
  cases hCandidate : d.isExportCandidate with
  | true =>
    have hNone := Doclet.category?_of_isExportCandidate hCandidate
    have hKept : d.isRetained = true := by simp [Doclet.isRetained, hCandidate]
    exact h.retain (.ofDoclet d) rfl rfl rfl hKept { h.filed.append_none hNone with }
  | false =>
    cases hCategory : d.category? with
    | none =>
      have hSkip := Doclet.not_isRetained hCandidate hCategory
      constructor
      case doclets => exact h.doclets.trans (by simp [hSkip])
      case skipped => simp [h.skipped, hSkip]
      case filed => exact { h.filed with }
      case listeners => exact h.listeners
    | some c =>
      have hKept := Doclet.isRetained_of_category? hCategory
      have hFiled := h.filed.append_some ix.length_doclets.symm hCategory
      exact h.retain (.ofDoclet d) (by rw [fileSymbol_eq]; rfl) (by rw [fileSymbol_eq])
        (by rw [fileSymbol_eq]) hKept hFiled

/-- After any doclets, the index holds what the list of them says. -/
theorem HasAdded.ingest (h : ix.HasAdded added) (ds : List Doclet) :
    (ix.ingest ds).HasAdded (added ++ ds) := by
  induction ds generalizing ix added with
  | nil => simpa using h
  | cons d ds ih =>
    rw [ingest_cons, List.append_cons]
    exact ih (h.add d)

theorem get_map_listeners (places : List ℕ) :
    (⟨places.map (Category.listeners, ·)⟩ : Bucket).get .listeners = places := by
  induction places with
  | nil => rfl
  | cons place places ih => simpa [Bucket.get] using ih

/-- What the tables of an index list, as functions of the doclets that were added. -/
structure ListsBatch (ix : SymbolIndex) (added : List Doclet) : Prop where
  /-- The retained symbols are those of the doclets with a symbol, in their order. -/
  retained : ix.doclets = added.filter Doclet.isRetained
  /-- The skipped doclets are the others, in their order. -/
  skipped : ix.skipped = added.filter fun d => !d.isRetained
  /-- The symbols of a category are all of that category. -/
  symbols (c : Category) : ix.symbols.get c = ix.doclets.findIdxs (·.isIn c)
  /-- The globals of a category are the global symbols of it. -/
  globals (c : Category) : ix.globals.get c =
    ix.doclets.findIdxs fun d => d.isGlobal && d.isIn c
  /-- Under a longname are the symbols that have it and are not global. -/
  symbolsFor (longname : String) (c : Category) : (ix.symbolsFor longname).get c =
    ix.doclets.findIdxs fun d => d.isNamed longname && d.isIn c
  /-- Under an enclosing longname are the symbols with it that are not global and have a
  longname. -/
  membersOf (memberof : String) (c : Category) : (ix.membersOf memberof).get c =
    ix.doclets.findIdxs fun d => d.isMember memberof && d.isIn c
  /-- The longnames with a page are those of the symbols whose category asks for one. -/
  outputLongnames : ix.outputLongnames = (ix.doclets.filterMap Doclet.ownPage?).eraseDups
  /-- Under an event are the symbols that listen to it, as often as each says so. -/
  listeners (event : String) : ((ix.listeners.get? event).getD {}).get .listeners =
    listenings event ix.doclets
  /-- No key has a bucket without symbols. -/
  hasSymbols {table : Dict String Bucket} {key : String} {b : Bucket}
    (hTable : table ∈ [ix.byLongname, ix.byMemberof, ix.listeners])
    (hBucket : table.get? key = some b) : b.hasSymbols none = true
  /-- A global symbol is under no longname. -/
  global_unfiled {place : ℕ} {d : Doclet} (hDoclet : ix.doclets[place]? = some d)
    (hGlobal : d.isGlobal = true) (key : String) (c : Category) :
    place ∉ (ix.symbolsFor key).get c ∧ place ∉ (ix.membersOf key).get c

theorem mem_findIdxs_iff {doclets : List Doclet} {place : ℕ} {p : Doclet → Bool} :
    place ∈ doclets.findIdxs p ↔ ∃ d, doclets[place]? = some d ∧ p d = true := by
  simp only [List.mem_findIdxs_iff_exists_getElem_pos, List.getElem?_eq_some_iff]
  constructor
  · rintro ⟨hPlace, hHolds⟩
    exact ⟨_, ⟨hPlace, rfl⟩, hHolds⟩
  · rintro ⟨_, ⟨hPlace, rfl⟩, hHolds⟩
    exact ⟨hPlace, hHolds⟩

theorem not_mem_findIdxs {doclets : List Doclet} {place : ℕ} {p : Doclet → Bool}
    (hDoclet : doclets[place]? = some d) (hNot : p d = false) : place ∉ doclets.findIdxs p := by
  rw [mem_findIdxs_iff]
  rintro ⟨d', hDoclet', hHolds⟩
  obtain rfl := Option.some.inj (hDoclet.symm.trans hDoclet')
  exact Bool.false_ne_true (hNot.symm.trans hHolds)

section Ingest
variable (r : LinkRegistry) (registersSources : Bool) (ds : List Doclet)

theorem doclets_ingest :
    ((empty r registersSources).ingest ds).doclets = ds.filter Doclet.isRetained :=
  ((hasAdded_empty r registersSources).ingest ds).doclets

theorem get_symbols_ingest (c : Category) : ((empty r registersSources).ingest ds).symbols.get c =
    ((empty r registersSources).ingest ds).doclets.findIdxs (·.isIn c) := by
  simp [((hasAdded_empty r registersSources).ingest ds).filed.symbols, get_filings]

theorem get_listeners_ingest (event : String) :
    ((((empty r registersSources).ingest ds).listeners.get? event).getD {}).get .listeners =
      listenings event ((empty r registersSources).ingest ds).doclets := by
  rw [((hasAdded_empty r registersSources).ingest ds).listeners.getD, get_map_listeners]

end Ingest

/-- The tables that are kept up to date doclet by doclet list what the doclets say as a
whole. -/
theorem listsBatch_ingest (r : LinkRegistry) (registersSources : Bool) (ds : List Doclet) :
    ((empty r registersSources).ingest ds).ListsBatch ds := by
  obtain ⟨-, hSkipped, hFiled, hListeners⟩ := (hasAdded_empty r registersSources).ingest ds
  have hSymbolsFor (longname c) := congrArg (Bucket.get · c) (hFiled.byLongname.getD longname)
  have hMembersOf (memberof c) := congrArg (Bucket.get · c) (hFiled.byMemberof.getD memberof)
  simp only [get_filings] at hSymbolsFor hMembersOf
  constructor
  case retained => exact doclets_ingest r registersSources ds
  case skipped => exact hSkipped
  case symbols => exact get_symbols_ingest r registersSources ds
  case globals => intro c; rw [hFiled.globals, get_filings]
  case symbolsFor => exact hSymbolsFor
  case membersOf => exact hMembersOf
  case outputLongnames => exact hFiled.outputLongnames
  case listeners => exact get_listeners_ingest r registersSources ds
  case hasSymbols =>
    intro table key b hTable hBucket
    simp only [List.mem_cons, List.not_mem_nil, or_false] at hTable
    rcases hTable with rfl | rfl | rfl
    · exact hFiled.byLongname.hasSymbols hBucket
    · exact hFiled.byMemberof.hasSymbols hBucket
    · exact hListeners.hasSymbols hBucket
  case global_unfiled =>
    intro place d hDoclet hGlobal key c
    rw [symbolsFor, membersOf, hSymbolsFor, hMembersOf]
    constructor
    · exact not_mem_findIdxs hDoclet (by simp [Doclet.isNamed, hGlobal])
    · exact not_mem_findIdxs hDoclet (by simp [Doclet.isMember, hGlobal])

end SymbolIndex

end DocSite

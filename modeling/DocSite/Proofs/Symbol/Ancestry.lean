import DocSite.Doclet.Store
import DocSite.Proofs.Symbol.Linking
import DocSite.Proofs.Symbol.Retaining
import DocSite.Proofs.Symbol.Walks

/-! The ancestors of a symbol. They are found when the symbol is retained, by a walk outwards
over what is filed by then, so they are the longest chain of longnames that enclose it. The first
symbol of a longname stays the first, so in an index that has grown the chain of the same symbol
goes on where the earlier one ended. -/

namespace DocSite

namespace Doclet

theorem ne_empty_of_readName {value : Datum} {name : Option String}
    (h : readName value = .ok name) : name ≠ some "" := by
  obtain ⟨text, -, hText⟩ := Field.exists_of_bind_eq_ok h
  obtain rfl := Except.ok.inj hText
  simp [Option.filter_eq_some_iff]

theorem ne_empty_of_getD_readName {record : Datum} {field : String} {name : Option String}
    (h : Field.getD record field readName none = .ok name) : name ≠ some "" := by
  unfold Field.getD at h
  split at h
  · rename_i value _
    cases hRead : readName value with
    | error misfit =>
      rw [hRead] at h
      contradiction
    | ok read =>
      rw [hRead] at h
      obtain rfl := Except.ok.inj h
      exact ne_empty_of_readName hRead
  · obtain rfl := Except.ok.inj h
    exact nofun

/-- The names of a doclet that has been read are not empty. -/
theorem names_ne_empty_of_read {record : Datum} {d : Doclet} (h : read record = .ok d) :
    d.longname ≠ some "" ∧ d.name ≠ some "" ∧ d.memberof ≠ some "" ∧ d.scope ≠ some "" := by
  obtain ⟨-, -, h⟩ := Field.exists_of_bind_eq_ok h
  obtain ⟨kind, -, h⟩ := Field.exists_of_bind_eq_ok h
  obtain ⟨longname, hLongname, h⟩ := Field.exists_of_bind_eq_ok h
  obtain ⟨name, hName, h⟩ := Field.exists_of_bind_eq_ok h
  obtain ⟨memberof, hMemberof, h⟩ := Field.exists_of_bind_eq_ok h
  obtain ⟨scope, hScope, h⟩ := Field.exists_of_bind_eq_ok h
  have hFields : d.longname = longname ∧ d.name = name ∧ d.memberof = memberof ∧
      d.scope = scope := by
    -- the ten fields after these are read for themselves
    iterate 10 obtain ⟨_, -, h⟩ := Field.exists_of_bind_eq_ok h
    obtain rfl := Except.ok.inj h
    exact ⟨rfl, rfl, rfl, rfl⟩
  obtain ⟨rfl, rfl, rfl, rfl⟩ := hFields
  exact ⟨ne_empty_of_getD_readName hLongname, ne_empty_of_getD_readName hName,
    ne_empty_of_getD_readName hMemberof, ne_empty_of_getD_readName hScope⟩

theorem exists_read_of_mem_readItems {position : ℕ} {items : List Datum} {ds : List Doclet}
    (h : readItems position items = .ok ds) {d : Doclet} (hd : d ∈ ds) :
    ∃ record, read record = .ok d := by
  induction items generalizing position ds with
  | nil =>
    obtain rfl := Except.ok.inj h
    cases hd
  | cons item items ih =>
    cases item with
    | dict entries =>
      rw [readItems] at h
      cases hFirst : read (.dict entries) with
      | error misfit => simp [hFirst] at h
      | ok first =>
        cases hRest : readItems (position + 1) items with
        | error error => simp [hFirst, hRest, Except.map] at h
        | ok rest =>
          simp only [hFirst, hRest, Except.map] at h
          obtain rfl := Except.ok.inj h
          rcases List.mem_cons.1 hd with rfl | hd
          · exact ⟨_, hFirst⟩
          · exact ih hRest hd
    | _ => cases h

/-- No doclet of a list that has been read has an empty longname as the enclosing one. -/
theorem memberof_ne_empty_of_readList {value : Datum} {ds : List Doclet}
    (h : readList value = .ok ds) {d : Doclet} (hd : d ∈ ds) : d.memberof ≠ some "" := by
  cases value with
  | list items =>
    obtain ⟨record, hRead⟩ := exists_read_of_mem_readItems h hd
    exact (names_ne_empty_of_read hRead).2.2.1
  | _ => cases h

/-- Whether the doclet is filed under a longname; what a module exports is held back. -/
def isFiledUnder (longname : String) (d : Doclet) : Bool :=
  d.isNamed longname && d.category?.isSome

/-- What encloses the first of some doclets that is filed under a longname. -/
def outerIn? (doclets : List Doclet) (longname : String) : Option (Option String) :=
  (doclets.find? (isFiledUnder longname)).map memberof

/-- The first doclet stays the first when more are filed. -/
theorem outerIn?_of_isPrefix {doclets more : List Doclet} (hPrefix : doclets <+: more)
    {longname : String} {next : Option String} (h : outerIn? doclets longname = some next) :
    outerIn? more longname = some next := by
  obtain ⟨d, hFirst, rfl⟩ := Option.map_eq_some_iff.1 h
  obtain ⟨rest, rfl⟩ := hPrefix
  rw [outerIn?, List.find?_append, hFirst, Option.some_or, Option.map_some]

end Doclet

namespace SymbolIndex

/-- The first symbol that is filed under a longname. -/
def firstFiled? (ix : SymbolIndex) (longname : String) : Option Symbol :=
  (ix.symbolsFor longname).first?.bind ix.symbolAt?

/-- What encloses the first symbol that is filed under a longname. -/
def outer? (ix : SymbolIndex) (longname : String) : Option (Option String) :=
  (ix.firstFiled? longname).map Symbol.memberof

/-- Whether a list is a chain of longnames that enclose a symbol, innermost first: it begins with
the longname that encloses the symbol, and goes on with what encloses the first symbol that is
filed under each. -/
structure IsAncestry (ix : SymbolIndex) (s : Symbol) (chain : List String) : Prop where
  head : ∀ name ∈ chain.head?, s.memberof = some name
  next : chain.IsChain fun name outer =>
    (ix.firstFiled? name).bind Symbol.memberof = some outer
  filed : ∀ name ∈ chain, ix.byLongname.has name = true
  ne_empty : ∀ name ∈ chain, name ≠ ""
  nodup : chain.Nodup
  ne_longname : ∀ name ∈ chain, s.longname ≠ some name

/-- The ancestors of a symbol, right after it has been retained: the walk from it ends with them,
and they are the longest chain of longnames that enclose it. -/
structure HasAncestors (ix : SymbolIndex) (s : Symbol) : Prop where
  walks : Walks ix.outer? s.longname.toList s.memberof s.ancestors.reverse
  isAncestry : ix.IsAncestry s s.ancestors.reverse
  longest : ∀ chain, ix.IsAncestry s chain → chain <+: s.ancestors.reverse

/-! ### What is filed -/

theorem first?_filings (keep : Doclet → Bool) (doclets : List Doclet) :
    (⟨filings keep doclets⟩ : Bucket).first? =
      doclets.findIdx? fun d => keep d && d.category?.isSome := by
  induction doclets using List.reverseRecOn with
  | nil => rfl
  | append_singleton doclets d ih =>
    rw [List.findIdx?_append, ← ih, filings_concat]
    cases hKeep : keep d <;> cases hCategory : d.category? <;> cases filings keep doclets <;>
      simp [Bucket.first?, List.findIdx?_cons, hKeep, hCategory]

/-- Whether some doclets are what has been filed by longname. -/
def FilesByLongname (ix : SymbolIndex) (filed : List Doclet) : Prop :=
  Tabulates ix.byLongname fun longname => filings (Doclet.isNamed longname) filed

section Filed
variable {ix : SymbolIndex} {filed : List Doclet} {s : Symbol} (hFiled : ix.FilesByLongname filed)
include hFiled

theorem first?_symbolsFor (longname : String) : (ix.symbolsFor longname).first? =
    filed.findIdx? (Doclet.isFiledUnder longname) := by
  rw [symbolsFor, hFiled.getD, first?_filings]
  rfl

/-- A longname is a key of the table exactly if something is filed under it. -/
theorem has_byLongname_iff (longname : String) :
    ix.byLongname.has longname = true ↔ (Doclet.outerIn? filed longname).isSome := by
  have hFirst := first?_symbolsFor hFiled longname
  rw [symbolsFor, hFiled longname] at hFirst
  rw [Dict.has, hFiled longname, Doclet.outerIn?, Option.isSome_map, List.find?_isSome,
    ← List.any_eq_true, ← List.findIdx?_isSome, ← hFirst]
  dsimp only
  cases filings (Doclet.isNamed longname) filed <;> rfl

/-- The parent that a walk looks up is what encloses the first of the doclets filed. -/
theorem parentOf?_eq (hPrefix : filed <+: ix.doclets ++ [s.doclet]) (longname : String) :
    ix.parentOf? s longname = Doclet.outerIn? filed longname := by
  have hFirst : (ix.byLongname.get? longname).bind Bucket.first? =
      filed.findIdx? (Doclet.isFiledUnder longname) := by
    rw [← first?_symbolsFor hFiled, symbolsFor]
    cases ix.byLongname.get? longname <;> rfl
  rw [parentOf?, hFirst, Doclet.outerIn?, List.find?_eq_bind_findIdx?_getElem?]
  cases hPlace : filed.findIdx? (Doclet.isFiledUnder longname) with
  | none => rfl
  | some place =>
    obtain ⟨hLt, -⟩ := List.findIdx?_eq_some_iff_getElem.1 hPlace
    have hDoclet : ((ix.retained ++ [s])[place]?).map Symbol.doclet = some filed[place] := by
      have hDoclets : (ix.retained ++ [s]).map Symbol.doclet = ix.doclets ++ [s.doclet] :=
        List.map_append
      obtain ⟨rest, hRest⟩ := hPrefix
      rw [← List.getElem?_map, hDoclets, ← hRest, List.getElem?_append_left hLt,
        List.getElem?_eq_getElem hLt]
    obtain ⟨t, hAt, hEq⟩ := Option.map_eq_some_iff.1 hDoclet
    rw [Option.map_some, Option.bind_some, hAt, List.getElem?_eq_getElem hLt, ← hEq]
    rfl

/-- The ancestors that are found of a symbol are a walk over the doclets filed. -/
theorem walks_ancestorsOf (hPrefix : filed <+: ix.doclets ++ [s.doclet]) :
    Walks (Doclet.outerIn? filed) s.longname.toList s.memberof (ix.ancestorsOf s).reverse := by
  have hKeys : ∀ name, (Doclet.outerIn? filed name).isSome → name ∈ ix.byLongname.keys := by
    intro name hName
    rwa [← Dict.has_iff_mem_keys, has_byLongname_iff hFiled]
  have hFuel : (ix.byLongname.keys.filter (· ∉ s.longname.toList)).length <
      ix.byLongname.length + 1 := by
    have hLength : ix.byLongname.keys.length = ix.byLongname.length := List.length_map _
    rw [← hLength]
    exact Nat.lt_succ_of_le (List.length_filter_le _ _)
  rw [ancestorsOf, List.reverse_reverse, funext (parentOf?_eq hFiled hPrefix)]
  exact walks_chainFrom hKeys hFuel s.memberof

end Filed

section Whole
variable {ix : SymbolIndex} {s : Symbol} (hFiled : ix.FilesByLongname ix.doclets)
include hFiled

theorem map_doclet_firstFiled? (longname : String) :
    (ix.firstFiled? longname).map Symbol.doclet =
      ix.doclets.find? (Doclet.isFiledUnder longname) := by
  rw [firstFiled?, first?_symbolsFor hFiled, List.find?_eq_bind_findIdx?_getElem?, Option.map_bind]
  refine congrArg _ (funext fun place => ?_)
  rw [doclets, List.getElem?_map]
  rfl

theorem outer?_eq : ix.outer? = Doclet.outerIn? ix.doclets := by
  funext longname
  rw [Doclet.outerIn?, ← map_doclet_firstFiled? hFiled, Option.map_map]
  rfl

theorem isAncestry_iff {chain : List String} : ix.IsAncestry s chain ↔
      IsOutward ix.outer? s.longname.toList s.memberof chain ∧ ∀ name ∈ chain, name ≠ "" := by
  have hNext : ∀ name outer, (ix.firstFiled? name).bind Symbol.memberof = some outer ↔
      ix.outer? name = some (some outer) := by
    intro name outer
    rw [outer?, Option.bind_eq_some_iff, Option.map_eq_some_iff]
  have hKnown : ∀ name, ix.byLongname.has name = true ↔ (ix.outer? name).isSome := by
    intro name
    rw [has_byLongname_iff hFiled, outer?_eq hFiled]
  constructor
  · rintro ⟨hHead, hChain, hHas, hEmpty, hNodup, hLongname⟩
    refine ⟨⟨hHead, hChain.imp fun name outer => (hNext name outer).1,
      fun name hName => (hKnown name).1 (hHas name hName), hNodup, fun name hName hMet => ?_⟩,
      hEmpty⟩
    exact hLongname name hName (Option.mem_toList.1 hMet)
  · rintro ⟨⟨hHead, hChain, hSome, hNodup, hUnmet⟩, hEmpty⟩
    refine ⟨hHead, hChain.imp fun name outer => (hNext name outer).2,
      fun name hName => (hKnown name).2 (hSome name hName), hEmpty, hNodup,
      fun name hName hEq => ?_⟩
    exact hUnmet name hName (Option.mem_toList.2 hEq)

end Whole

section Kept
variable {ix : SymbolIndex} {d : Doclet} (hKept : d.isRetained = true)
  (hFiled : (ix.add d).2.FilesByLongname (ix.add d).2.doclets)
include hKept hFiled

/-- The walk of a symbol that is retained is one over the doclets up to its own. -/
theorem walks_symbolOf : Walks (ix.add d).2.outer? d.longname.toList d.memberof
    (ix.symbolOf d).ancestors.reverse := by
  have hTable : (ix.add d).2.byLongname = (ix.withFiled d).byLongname := by
    obtain ⟨s, shortPaths, -, hRetain⟩ := (ix.withFiled d).retain_eq (.ofDoclet d)
    rw [add_of_isRetained _ hKept, hRetain]
  have hBefore : (ix.withFiled d).FilesByLongname (ix.add d).2.doclets := by
    rw [FilesByLongname, ← hTable]
    exact hFiled
  have hDoclets : (ix.add d).2.doclets = (ix.withFiled d).doclets ++ [d] := by
    rw [doclets_add _ hKept, doclets_withFiled]
  rw [outer?_eq hFiled]
  exact walks_ancestorsOf (s := .ofDoclet d) hBefore (by rw [hDoclets]; exact List.prefix_rfl)

/-- A symbol that is retained has its ancestors. -/
theorem hasAncestors_symbolOf (hNames : ∀ e ∈ (ix.add d).2.doclets, e.memberof ≠ some "") :
    (ix.add d).2.HasAncestors (ix.symbolOf d) := by
  have hWalk := walks_symbolOf hKept hFiled
  have hOwn : d ∈ (ix.add d).2.doclets := by
    rw [doclets_add _ hKept]
    exact List.mem_concat_self
  have hNever : ∀ name ∈ (ix.symbolOf d).ancestors.reverse, name ≠ "" := by
    refine hWalk.forall_mem ?_ ?_
    · rintro name hStart rfl
      exact hNames d hOwn hStart
    · rintro name outer hOuter rfl
      rw [outer?_eq hFiled] at hOuter
      obtain ⟨e, hFirst, hMember⟩ := Option.map_eq_some_iff.1 hOuter
      exact hNames e (List.mem_of_find?_eq_some hFirst) hMember
  constructor
  case walks => exact hWalk
  case isAncestry => exact (isAncestry_iff hFiled).2 ⟨hWalk.isOutward, hNever⟩
  case longest => exact fun chain hChain => hWalk.isPrefix ((isAncestry_iff hFiled).1 hChain).1

/-- The ancestors of a symbol end the ancestors that an index which has grown finds of it. -/
theorem isSuffix_ancestorsOf {grown : SymbolIndex} (hGrown : grown.FilesByLongname grown.doclets)
    (hPrefix : (ix.add d).2.doclets <+: grown.doclets) :
    (ix.symbolOf d).ancestors <:+ grown.ancestorsOf (ix.symbolOf d) := by
  have hWalk := walks_symbolOf hKept hFiled
  rw [outer?_eq hFiled] at hWalk
  have hLater := walks_ancestorsOf (s := ix.symbolOf d) hGrown (List.prefix_append _ _)
  rw [← List.reverse_prefix]
  exact hWalk.isPrefix_of_imp (fun name next => Doclet.outerIn?_of_isPrefix hPrefix) hLater

end Kept

section Ingest
variable {r : LinkRegistry} {registersSources : Bool} {ds : List Doclet}

theorem filesByLongname_ingest (r : LinkRegistry) (registersSources : Bool) (ds : List Doclet) :
    ((empty r registersSources).ingest ds).FilesByLongname
      ((empty r registersSources).ingest ds).doclets :=
  ((hasAdded_empty r registersSources).ingest ds).filed.byLongname

theorem mem_of_mem_doclets_ingest {d : Doclet}
    (h : d ∈ ((empty r registersSources).ingest ds).doclets) : d ∈ ds := by
  rw [((hasAdded_empty r registersSources).ingest ds).doclets] at h
  exact (List.mem_filter.1 h).1

/-- A symbol has its ancestors right after it has been retained. In whatever way doclets are added
from there on, they end the ancestors that are then found of it. -/
def KeepsAncestors (r : LinkRegistry) (registersSources : Bool) (ds : List Doclet) (place : ℕ)
    (s : Symbol) : Prop :=
  ∃ earlier later, ds = earlier ++ later ∧
    ((empty r registersSources).ingest earlier).nextPlace = place + 1 ∧
    ((empty r registersSources).ingest earlier).symbolAt? place = some s ∧
    ((empty r registersSources).ingest earlier).HasAncestors s ∧
    ∀ rest, s.ancestors <:+
      ((empty r registersSources).ingest (earlier ++ rest)).ancestorsOf s

theorem keepsAncestors (hNames : ∀ d ∈ ds, d.memberof ≠ some "") {place : ℕ} {s : Symbol}
    (hSymbol : ((empty r registersSources).ingest ds).symbolAt? place = some s) :
    KeepsAncestors r registersSources ds place s := by
  obtain ⟨before, d, later, rfl, hKept, rfl, rfl⟩ :=
    exists_of_symbolAt?_ingest (Nat.zero_le place) hSymbol
  have hAdded := (empty r registersSources).ingest_concat before d
  have hFiled := filesByLongname_ingest r registersSources (before ++ [d])
  refine ⟨before ++ [d], later, by simp, ?_, ?_, ?_, fun rest => ?_⟩
  · rw [hAdded, nextPlace_add, hKept, if_pos rfl]
  · rw [hAdded, symbolAt?_add _ hKept]
  · have hOwn : ∀ e ∈ ((empty r registersSources).ingest (before ++ [d])).doclets,
        e.memberof ≠ some "" := by
      intro e hMem
      refine hNames e ?_
      rw [List.append_cons]
      exact List.mem_append_left later (mem_of_mem_doclets_ingest hMem)
    rw [hAdded] at hFiled hOwn ⊢
    exact hasAncestors_symbolOf hKept hFiled hOwn
  · have hGrown := doclets_isPrefix_ingest ((empty r registersSources).ingest (before ++ [d])) rest
    rw [← ingest_append] at hGrown
    rw [hAdded] at hFiled hGrown
    exact isSuffix_ancestorsOf hKept hFiled (filesByLongname_ingest _ _ _) hGrown

/-- The symbols of a site whose doclets have been read have their ancestors: an empty longname
counts as none when a doclet is read. -/
theorem keepsAncestors_of_readList {value : Datum} {read : List Doclet}
    (hRead : Doclet.readList value = .ok read) (includePrivate : Bool) {place : ℕ} {s : Symbol}
    (hSymbol : ((empty r registersSources).ingest
      (Doclet.arrange includePrivate read)).symbolAt? place = some s) :
    KeepsAncestors r registersSources (Doclet.arrange includePrivate read) place s :=
  keepsAncestors (fun _ hd => Doclet.memberof_ne_empty_of_readList hRead
    (List.mem_filter.1 ((Doclet.arrange_perm includePrivate read).mem_iff.1 hd)).1) hSymbol

/-- No doclet that has been read has an empty longname as the enclosing one. Then the ancestors
of every symbol are the longest chain of longnames that enclose it, as far as symbols are
filed by the time at which it is retained, and the walk that finds them ends. In whatever
way doclets are added from there on, the walk from the symbol then ends with the same ancestors,
and more can only come outside of them. -/
theorem ancestors_longest (r : LinkRegistry) (registersSources : Bool) (ds : List Doclet)
    (hNames : ∀ d ∈ ds, d.memberof ≠ some "") {place : ℕ} {s : Symbol}
    (hSymbol : ((empty r registersSources).ingest ds).symbolAt? place = some s) :
    ∃ earlier later, ds = earlier ++ later ∧
      ((empty r registersSources).ingest earlier).nextPlace = place + 1 ∧
      ((empty r registersSources).ingest earlier).symbolAt? place = some s ∧
      ((empty r registersSources).ingest earlier).HasAncestors s ∧
      ∀ rest, s.ancestors <:+
        ((empty r registersSources).ingest (earlier ++ rest)).ancestorsOf s :=
  keepsAncestors hNames hSymbol

/-- Two classes that enclose each other, and a method of the first. -/
def mutualClasses : List Doclet :=
  [.bare "class" "A" "A" (some "B"), .bare "class" "B" "B" (some "A"),
    .bare "function" "A.f" "f" (some "A")]

/-- The ancestors of the method are both classes, and the walk ends at the one met before. -/
theorem ancestors_longest_mutualClasses :
    (∀ d ∈ mutualClasses, d.memberof ≠ some "") ∧
    ∃ s, ((empty .fresh true).ingest mutualClasses).symbolAt? 2 = some s ∧
      s.ancestors = ["B", "A"] ∧
      ∃ earlier later, mutualClasses = earlier ++ later ∧
        ((empty .fresh true).ingest earlier).nextPlace = 3 ∧
        ((empty .fresh true).ingest earlier).symbolAt? 2 = some s ∧
        ((empty .fresh true).ingest earlier).HasAncestors s ∧
        ∀ rest, s.ancestors <:+ ((empty .fresh true).ingest (earlier ++ rest)).ancestorsOf s := by
  have hNames : ∀ d ∈ mutualClasses, d.memberof ≠ some "" := by decide +kernel
  have hFound : (((empty .fresh true).ingest mutualClasses).symbolAt? 2).map Symbol.ancestors =
      some ["B", "A"] := by
    decide +kernel
  obtain ⟨s, hSymbol, hAncestors⟩ := Option.map_eq_some_iff.1 hFound
  exact ⟨hNames, s, hSymbol, hAncestors,
    ancestors_longest .fresh true mutualClasses hNames hSymbol⟩

end Ingest

end SymbolIndex

end DocSite

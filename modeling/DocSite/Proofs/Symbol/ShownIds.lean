import DocSite.Proofs.Symbol.Exports
import DocSite.Proofs.Symbol.PageIds
import Mathlib.Data.List.Nodup
import Mathlib.Data.List.Pairwise

/-! The ids of the symbols that are shown together. An id is new on the page of the address of
its symbol, but a page shows symbols by their longname and by what encloses them, so a member
whose address leads elsewhere, and a symbol that is shown twice, bring ids that are new on
no page. These are the only ways in which two of the symbols shown have one id. -/

namespace DocSite

namespace SymbolIndex

variable (ix : SymbolIndex)

/-- The id of the symbol at a place, unless it is empty. -/
def idAt? (place : ℕ) : Option String := ((ix.symbolAt? place).bind Symbol.id).filter (· != "")

/-- The page of the address of the symbol at a place. -/
def pageAt? (place : ℕ) : Option String := (ix.nameAt? place).bind ix.registry.pageOf?

/-- The places of the symbols on a page, in the order of their sections. -/
def shownOn (docs members : List ℕ) : List ℕ :=
  docs.flatMap (fun p => p :: (ix.exportAt? p).toList) ++ members

/-! ### Ids apart -/

/-- Whether the symbols at two places have different ids, if they have any. -/
def IdsApart (p q : ℕ) : Prop := ∀ id, ix.idAt? p = some id → ix.idAt? q ≠ some id

/-- The symbols of one page have ids that are apart. -/
def ApartOnPages (ix : SymbolIndex) : Prop :=
  ∀ p q, p ≠ q → ix.pageAt? p = ix.pageAt? q → ix.IdsApart p q

/-- When the sections on a page have ids apart from each other. The page shows the symbols at
some places with what they export, and other ones as members. -/
structure SectionsApart (ix : SymbolIndex) (page : Option String) (docs members : List ℕ) :
    Prop where
  /-- No documented symbol with an id is shown as a member too. -/
  own_member : ∀ p ∈ docs, p ∈ members → ix.idAt? p = none
  /-- Nothing that has an id is exported by two of the documented symbols. -/
  shared_export : ∀ p ∈ docs, ∀ q ∈ docs, p ≠ q → ∀ e, ix.exportAt? p = some e →
    ix.exportAt? q = some e → ix.idAt? e = none
  /-- A member whose address leads to another page has the id of no symbol on the page whose
  address leads elsewhere than its own. -/
  elsewhere : ∀ m ∈ members, ix.pageAt? m ≠ page → ∀ p ∈ ix.shownOn docs members,
    ix.pageAt? p ≠ ix.pageAt? m → ix.IdsApart m p

/-- What the tables of an index say of the symbols on a page: each is listed once, those that
are documented and what they export have their addresses on it, and an export is listed
nowhere. -/
structure ShowsOnce (ix : SymbolIndex) (page : Option String) (docs members : List ℕ) : Prop where
  docs_nodup : docs.Nodup
  members_nodup : members.Nodup
  docs_page : ∀ p ∈ docs, ix.pageAt? p = page
  export_page : ∀ p ∈ docs, ∀ e, ix.exportAt? p = some e → ix.pageAt? e = page
  export_not_listed : ∀ p ∈ docs, ∀ e, ix.exportAt? p = some e → e ∉ docs ∧ e ∉ members

variable {ix} {page : Option String} {docs members : List ℕ}

theorem IdsApart.symm {p q : ℕ} (h : ix.IdsApart p q) : ix.IdsApart q p :=
  fun id hq hp => h id hp hq

instance : Std.Symm ix.IdsApart := ⟨fun _ _ => IdsApart.symm⟩

theorem idsApart_of_idAt?_eq_none {p : ℕ} (q : ℕ) (h : ix.idAt? p = none) : ix.IdsApart p q :=
  fun id hId => absurd (h.symm.trans hId) (by simp)

theorem idAt?_eq_none_of_idsApart_self {p : ℕ} (h : ix.IdsApart p p) : ix.idAt? p = none :=
  Option.eq_none_iff_forall_ne_some.2 fun id hId => h id hId hId

theorem mem_shownOn_iff {p : ℕ} : p ∈ ix.shownOn docs members ↔
    p ∈ docs ∨ (∃ d ∈ docs, ix.exportAt? d = some p) ∨ p ∈ members := by
  simp only [shownOn, List.mem_append, List.mem_flatMap, List.mem_cons, Option.mem_toList]
  constructor
  · rintro (⟨d, hd, rfl | hExport⟩ | hMember)
    · exact .inl hd
    · exact .inr (.inl ⟨d, hd, hExport⟩)
    · exact .inr (.inr hMember)
  · rintro (hd | ⟨d, hd, hExport⟩ | hMember)
    · exact .inl ⟨p, hd, .inl rfl⟩
    · exact .inl ⟨d, hd, .inr hExport⟩
    · exact .inr hMember

/-- Different symbols on a page have ids apart, if its members elsewhere do. -/
theorem SectionsApart.idsApart (h : ix.SectionsApart page docs members)
    (hShows : ix.ShowsOnce page docs members) (hPages : ix.ApartOnPages) {p q : ℕ}
    (hp : p ∈ ix.shownOn docs members) (hq : q ∈ ix.shownOn docs members) (hNe : p ≠ q) :
    ix.IdsApart p q := by
  have hMember : ∀ x ∈ ix.shownOn docs members, ix.pageAt? x ≠ page → x ∈ members := by
    intro x hx hPage
    rcases mem_shownOn_iff.1 hx with hx | ⟨d, hd, hExport⟩ | hx
    · exact absurd (hShows.docs_page x hx) hPage
    · exact absurd (hShows.export_page d hd x hExport) hPage
    · exact hx
  by_cases hSame : ix.pageAt? p = ix.pageAt? q
  · exact hPages p q hNe hSame
  -- of two pages one is not the page itself
  · by_cases hPage : ix.pageAt? p = page
    · have hOther : ix.pageAt? q ≠ page := fun hq => hSame (hPage.trans hq.symm)
      exact (h.elsewhere q (hMember q hq hOther) hOther p hp hSame).symm
    · exact h.elsewhere p (hMember p hp hPage) hPage q hq (Ne.symm hSame)

theorem pairwise_shownOn_iff (hShows : ix.ShowsOnce page docs members) (hPages : ix.ApartOnPages) :
    (ix.shownOn docs members).Pairwise ix.IdsApart ↔ ix.SectionsApart page docs members := by
  constructor
  · intro hPairwise
    obtain ⟨hDocs, -, hCross⟩ := List.pairwise_append.1 hPairwise
    constructor
    case own_member =>
      intro p hp hMember
      have hFirst : p ∈ docs.flatMap fun p => p :: (ix.exportAt? p).toList :=
        List.mem_flatMap.2 ⟨p, hp, List.mem_cons_self⟩
      exact idAt?_eq_none_of_idsApart_self (hCross p hFirst p hMember)
    case shared_export =>
      have hSymm : Std.Symm fun p q => ∀ e, ix.exportAt? p = some e →
          ix.exportAt? q = some e → ix.idAt? e = none := ⟨fun _ _ h e hp hq => h e hq hp⟩
      have hTwo : docs.Pairwise fun p q => ∀ e, ix.exportAt? p = some e →
          ix.exportAt? q = some e → ix.idAt? e = none := by
        refine (List.pairwise_flatMap.1 hDocs).2.imp fun {p q} hApart e hp hq => ?_
        exact idAt?_eq_none_of_idsApart_self (hApart e (by simp [hp]) e (by simp [hq]))
      exact fun p hp q hq hNe => hTwo.forall hp hq hNe
    case elsewhere =>
      intro m hm hPage p hp hOther
      have hShown : m ∈ ix.shownOn docs members := mem_shownOn_iff.2 (.inr (.inr hm))
      exact hPairwise.forall hShown hp fun hEq => hOther (congrArg ix.pageAt? hEq.symm)
  · intro hApart
    have hPair {p q : ℕ} (hp : p ∈ docs ∨ (∃ d ∈ docs, ix.exportAt? d = some p) ∨ p ∈ members)
        (hq : q ∈ docs ∨ (∃ d ∈ docs, ix.exportAt? d = some q) ∨ q ∈ members) (hNe : p ≠ q) :
        ix.IdsApart p q :=
      hApart.idsApart hShows hPages (mem_shownOn_iff.2 hp) (mem_shownOn_iff.2 hq) hNe
    refine List.pairwise_append.2 ⟨List.pairwise_flatMap.2 ⟨fun p hp => ?_, ?_⟩, ?_, ?_⟩
    · -- a documented symbol and what it exports
      cases hExport : ix.exportAt? p with
      | none => simp
      | some e =>
        have hNe : p ≠ e := fun hEq => (hShows.export_not_listed p hp e hExport).1 (hEq ▸ hp)
        simpa using hPair (.inl hp) (.inr (.inl ⟨p, hp, hExport⟩)) hNe
    · -- two documented symbols, or what they export
      refine hShows.docs_nodup.imp_of_mem fun {p q} hp hq hNe x hx y hy => ?_
      rcases List.mem_cons.1 hx with rfl | hx <;> rcases List.mem_cons.1 hy with rfl | hy
      · exact hPair (.inl hp) (.inl hq) hNe
      · have hExport := Option.mem_toList.1 hy
        have hNe' : x ≠ y := fun hEq => (hShows.export_not_listed q hq y hExport).1 (hEq ▸ hp)
        exact hPair (.inl hp) (.inr (.inl ⟨q, hq, hExport⟩)) hNe'
      · have hExport := Option.mem_toList.1 hx
        have hNe' : x ≠ y := fun hEq => (hShows.export_not_listed p hp x hExport).1 (hEq ▸ hq)
        exact hPair (.inr (.inl ⟨p, hp, hExport⟩)) (.inl hq) hNe'
      · have hExport := Option.mem_toList.1 hx
        have hExport' := Option.mem_toList.1 hy
        by_cases hEq : x = y
        · subst hEq
          exact idsApart_of_idAt?_eq_none x
            (hApart.shared_export p hp q hq hNe x hExport hExport')
        · exact hPair (.inr (.inl ⟨p, hp, hExport⟩)) (.inr (.inl ⟨q, hq, hExport'⟩)) hEq
    · -- two members
      exact hShows.members_nodup.imp_of_mem fun hp hq hNe =>
        hPair (.inr (.inr hp)) (.inr (.inr hq)) hNe
    · -- a documented symbol, or what it exports, and a member
      intro x hx m hm
      obtain ⟨d, hd, hx⟩ := List.mem_flatMap.1 hx
      rcases List.mem_cons.1 hx with rfl | hx
      · by_cases hEq : x = m
        · subst hEq
          exact idsApart_of_idAt?_eq_none x (hApart.own_member x hd hm)
        · exact hPair (.inl hd) (.inr (.inr hm)) hEq
      · have hExport := Option.mem_toList.1 hx
        have hNe : x ≠ m := fun hEq => (hShows.export_not_listed d hd x hExport).2 (hEq ▸ hm)
        exact hPair (.inr (.inl ⟨d, hd, hExport⟩)) (.inr (.inr hm)) hNe

/-- The ids of the sections on a page are different exactly if the symbols shown have ids
apart. -/
theorem nodup_filterMap_idAt?_iff (hShows : ix.ShowsOnce page docs members)
    (hPages : ix.ApartOnPages) : ((ix.shownOn docs members).filterMap ix.idAt?).Nodup ↔
      ix.SectionsApart page docs members := by
  rw [← pairwise_shownOn_iff hShows hPages, List.Nodup, List.pairwise_filterMap]
  refine List.Pairwise.iff fun p q => ?_
  constructor
  · exact fun h id hp hq => h id hp id hq rfl
  · rintro h id hp id' hq rfl
    exact h id hp hq

/-! ### Finished indexes -/

theorem pageAt?_eq {place : ℕ} {s : Symbol} (h : ix.symbolAt? place = some s) :
    ix.pageAt? place = ix.pageOf? s := by
  rw [pageAt?, ← longname_symbolAt?, h, Option.bind_some]
  rfl

/-- An index can always be finished, and then every symbol with a longname has an address and
those of one page have ids apart. -/
theorem exists_apartOnPages (tutorials : List String) (doclets : List Doclet)
    (registersSources : Bool) :
    ∃ ix, ((empty (.withTutorials tutorials) registersSources).ingest doclets).finalize = .ok ix ∧
      ix.ApartOnPages ∧ ∀ s ∈ ix.retained, IsLinked ix.registry s := by
  have hOpen := (isOpen_empty (.withTutorials tutorials) registersSources).ingest doclets
  -- beside the ids on a page, a symbol without a longname has none
  obtain ⟨ix, l, hFinalize, ⟨hSound, hNameless⟩, -, hRegistry⟩ := hOpen.finalize_induct
    (P := fun l done => l.IsSound done ∧ ∀ s ∈ done, s.longname = none → s.id = none)
    ⟨.nil (by rw [registry_ingest]; exact LinkRegistry.isSound_withTutorials tutorials), by simp⟩
    (fun s hId l done hDone => by
      obtain ⟨s', l', hLink, hSound⟩ := hDone.1.link _ hId
      refine ⟨s', l', hLink, hSound, List.forall_mem_append.2 ⟨hDone.2, ?_⟩⟩
      refine List.forall_mem_singleton.2 fun hNone => ?_
      have hDoclet := congrArg Symbol.doclet (Linking.unlinked_link hLink)
      have hNone' : s.longname = none := (congrArg Doclet.longname hDoclet).symm.trans hNone
      rw [l.link_of_none _ hNone'] at hLink
      rw [← (Prod.mk.inj (Except.ok.inj hLink)).1, hId])
    (fun l done path hDone => ⟨hDone.1.register path, hDone.2⟩)
  obtain ⟨-, hLinked, -, hApart, -, -⟩ := hSound
  rw [← hRegistry] at hLinked hApart
  refine ⟨ix, hFinalize, fun p q hNe hSame id hp hq => ?_, hLinked⟩
  -- both symbols stand at one place, since they have one page and one id
  have hPlace : ∀ {x : ℕ}, ix.idAt? x = some id → ∃ (hLt : x < ix.retained.length) (page : String),
      ix.pageAt? x = some page ∧
        placeIn ix.registry ix.retained[x] = some (page, Text.lower id) := by
    intro x hx
    obtain ⟨hSome, -⟩ := Option.filter_eq_some_iff.1 hx
    obtain ⟨s, hAt, hId⟩ := Option.bind_eq_some_iff.1 hSome
    obtain ⟨hLt, rfl⟩ := List.getElem?_eq_some_iff.1 hAt
    have hMem := List.getElem_mem hLt
    cases hLongname : ix.retained[x].longname with
    | none => simp [hNameless _ hMem hLongname] at hId
    | some longname =>
      obtain ⟨url, hUrl⟩ := Option.isSome_iff_exists.1 (hLinked _ hMem longname hLongname)
      have hPage : ix.pageOf? ix.retained[x] = some (splitFragment url).1 := by
        rw [pageOf?, hLongname, Option.bind_some, LinkRegistry.pageOf?, hUrl, Option.map_some]
      exact ⟨hLt, _, (pageAt?_eq hAt).trans hPage, ix.placeIn_of_pageOf? hPage hId⟩
  obtain ⟨hLtP, page, hPageP, hPlaceP⟩ := hPlace hp
  obtain ⟨hLtQ, page', hPageQ, hPlaceQ⟩ := hPlace hq
  obtain rfl : page = page' := Option.some.inj (hPageP.symm.trans (hSame.trans hPageQ))
  have hBefore := List.pairwise_iff_getElem.1 hApart
  rcases Nat.lt_or_gt_of_ne hNe with hLess | hLess
  · exact hBefore p q hLtP hLtQ hLess _ hPlaceP hPlaceQ
  · exact hBefore q p hLtQ hLtP hLess _ hPlaceQ hPlaceP

/-- The places of the doclets of different categories are different. -/
theorem nodup_flatMap_findIdxs {categories : List Category} (h : categories.Nodup)
    (keep : Doclet → Bool) (doclets : List Doclet) :
    (categories.flatMap fun c => doclets.findIdxs fun d => keep d && d.isIn c).Nodup := by
  refine List.nodup_flatMap.2 ⟨fun c _ => List.nodup_findIdxs, h.imp fun {c c'} hNe => ?_⟩
  intro place hPlace hPlace'
  obtain ⟨d, hDoclet, hIn⟩ := mem_findIdxs_iff.1 hPlace
  obtain ⟨d', hDoclet', hIn'⟩ := mem_findIdxs_iff.1 hPlace'
  obtain rfl := Option.some.inj (hDoclet.symm.trans hDoclet')
  have hBoth := Doclet.category?_eq_some_iff.2 (Bool.and_eq_true_iff.1 hIn).2
  have hBoth' := Doclet.category?_eq_some_iff.2 (Bool.and_eq_true_iff.1 hIn').2
  exact hNe (Option.some.inj (hBoth.symm.trans hBoth'))

/-- What is listed by category is not held back for a module. -/
theorem exists_of_mem_flatMap_findIdxs {categories : List Category} {keep : Doclet → Bool}
    {doclets : List Doclet} {place : ℕ} (h : place ∈ categories.flatMap fun c =>
      doclets.findIdxs fun d => keep d && d.isIn c) :
    ∃ d, doclets[place]? = some d ∧ keep d = true ∧ d.isExportCandidate = false := by
  obtain ⟨c, -, hPlace⟩ := List.mem_flatMap.1 h
  obtain ⟨d, hDoclet, hBoth⟩ := mem_findIdxs_iff.1 hPlace
  obtain ⟨hKeep, hIn⟩ := Bool.and_eq_true_iff.1 hBoth
  exact ⟨d, hDoclet, hKeep, by simp_all [Doclet.isIn]⟩

section Tables
variable {r : LinkRegistry} {registersSources : Bool} {doclets : List Doclet}
  (h : ((empty r registersSources).ingest doclets).finalize = .ok ix)
include h

/-- A page of symbols lists the symbols of a longname and its members once, and what modules
export not at all. -/
theorem showsOnce_symbolPage {categories : List Category} (hCategories : categories.Nodup)
    (longname : String) : ix.ShowsOnce (ix.registry.pageOf? longname)
      (categories.flatMap (ix.symbolsFor longname).get) (ix.membersOf longname).toList := by
  rw [Bucket.toList, funext (get_symbolsFor_of_finalize h longname),
    funext (get_membersOf_of_finalize h longname)]
  have hNamed : ∀ p ∈ categories.flatMap fun c => ix.doclets.findIdxs fun d =>
      d.isNamed longname && d.isIn c, ix.nameAt? p = some longname := by
    intro p hp
    obtain ⟨d, hDoclet, hNamed, -⟩ := exists_of_mem_flatMap_findIdxs hp
    have hLongname : d.longname = some longname := by simp_all [Doclet.isNamed]
    rw [nameAt?, hDoclet, Option.bind_some, hLongname]
  constructor
  case docs_nodup => exact nodup_flatMap_findIdxs hCategories _ _
  case members_nodup => exact nodup_flatMap_findIdxs Category.nodup_all _ _
  case docs_page =>
    intro p hp
    rw [pageAt?, hNamed p hp, Option.bind_some]
  case export_page =>
    intro p hp e hExport
    obtain ⟨⟨d, hDoclet, hCandidate⟩, hSame⟩ := export_of_finalize h hExport
    obtain ⟨-, rest, hName, -⟩ := Doclet.exists_of_isExportCandidate hCandidate
    have hAt : ix.nameAt? e = some (Doclet.moduleLead ++ rest) := by
      rw [nameAt?, hDoclet, Option.bind_some, hName]
    rw [hAt, hNamed p hp, Option.getD_some, Option.getD_some] at hSame
    rw [pageAt?, hAt, hSame, Option.bind_some]
  case export_not_listed =>
    intro p hp e hExport
    obtain ⟨⟨d, hDoclet, hCandidate⟩, -⟩ := export_of_finalize h hExport
    have hNot {keep : Doclet → Bool} {listed : List Category} : e ∉ listed.flatMap fun c =>
        ix.doclets.findIdxs fun d => keep d && d.isIn c := by
      intro hListed
      obtain ⟨d', hDoclet', -, hNot⟩ := exists_of_mem_flatMap_findIdxs hListed
      obtain rfl := Option.some.inj (hDoclet.symm.trans hDoclet')
      simp [hNot] at hCandidate
    exact ⟨hNot, hNot⟩

/-- What is filed under a longname is a symbol that bears it. -/
theorem isSome_urlFor_of_mem_symbolsFor (hLinked : ∀ s ∈ ix.retained, IsLinked ix.registry s)
    {longname : String} {categories : List Category} {place : ℕ}
    (hPlace : place ∈ categories.flatMap (ix.symbolsFor longname).get) :
    (ix.registry.urlFor longname).isSome := by
  rw [funext (get_symbolsFor_of_finalize h longname)] at hPlace
  obtain ⟨d, hDoclet, hNamed, -⟩ := exists_of_mem_flatMap_findIdxs hPlace
  obtain ⟨s, hs, rfl⟩ := List.mem_map.1 (List.mem_of_getElem? hDoclet)
  exact hLinked s hs longname (by simp_all [Doclet.isNamed, Symbol.longname])

/-- The page of globals lists every global symbol once. -/
theorem showsOnce_globalsPage (page : Option String) :
    ix.ShowsOnce page [] ix.globals.toList where
  docs_nodup := List.nodup_nil
  members_nodup := by
    rw [Bucket.toList, funext (get_globals_of_finalize h)]
    exact nodup_flatMap_findIdxs Category.nodup_all _ _
  docs_page := by simp
  export_page := by simp
  export_not_listed := by simp

end Tables

end SymbolIndex

end DocSite

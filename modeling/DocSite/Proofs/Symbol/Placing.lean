import DocSite.Proofs.Link.IssuedPages
import DocSite.Proofs.Symbol.Finishing
import DocSite.Proofs.Symbol.Landing

/-! On which page a symbol stands. If what encloses symbols always comes before them, then
no longname has an address before its first symbol is linked, and this symbol decides where
the longname goes: to a page of its own, to the page of what encloses it, or to the page of
globals. -/

namespace DocSite

/-- The place of the first of some doclets with a longname. -/
def firstPlace? (doclets : List Doclet) (longname : String) : Option ℕ :=
  doclets.findIdx? fun d => d.longname == some longname

/-- Whether the first doclet of every longname comes before all that it encloses. -/
def ParentsFirst (doclets : List Doclet) : Prop :=
  ∀ longname first, firstPlace? doclets longname = some first →
    ∀ place d, doclets[place]? = some d → d.memberof = some longname → first < place

instance (doclets : List Doclet) : Decidable (ParentsFirst doclets) :=
  decidable_of_iff (∀ place : Fin doclets.length, ∀ longname ∈ (doclets.get place).memberof,
      ∀ first ∈ firstPlace? doclets longname, first < place.val) <| by
    constructor
    · intro h longname first hFirst place d hPlace hMember
      obtain ⟨hLt, rfl⟩ := List.getElem?_eq_some_iff.1 hPlace
      exact h ⟨place, hLt⟩ longname hMember first hFirst
    · intro h place longname hMember first hFirst
      exact h longname first hFirst place _ (List.getElem?_eq_getElem place.isLt) hMember

section ParentsFirst
variable {doclets : List Doclet} {d : Doclet}

theorem ParentsFirst.of_append (h : ParentsFirst (doclets ++ [d])) : ParentsFirst doclets := by
  intro longname first hFirst place e hPlace
  refine h longname first (by simp_all [firstPlace?, List.findIdx?_append]) place e ?_
  rw [List.getElem?_append_left (List.getElem?_eq_some_iff.1 hPlace).1, hPlace]

/-- The first doclet of a longname encloses nothing before it, and not itself. -/
theorem ParentsFirst.memberof_ne (h : ParentsFirst (doclets ++ [d])) {longname : String}
    (hLongname : d.longname = some longname) (hFirst : ∀ e ∈ doclets, e.longname ≠ some longname) :
    ∀ e ∈ doclets ++ [d], e.memberof ≠ some longname := by
  intro e he hMember
  have hIdx : firstPlace? (doclets ++ [d]) longname = some doclets.length := by
    have hNone : doclets.findIdx? (fun d => d.longname == some longname) = none := by
      rw [List.findIdx?_eq_none_iff]
      exact fun e he => beq_eq_false_iff_ne.2 (hFirst e he)
    simp [firstPlace?, List.findIdx?_append, hNone, List.findIdx?_cons, hLongname]
  obtain ⟨place, hPlace, rfl⟩ := List.getElem_of_mem he
  have hLt := h longname _ hIdx place _ (List.getElem?_eq_getElem hPlace) hMember
  rw [List.length_append, List.length_singleton] at hPlace
  omega

end ParentsFirst

namespace SymbolIndex

theorem firstNamed?_eq_none_iff {symbols : List Symbol} {longname : String} :
    firstNamed? symbols longname = none ↔
      ∀ d ∈ symbols.map Symbol.doclet, d.longname ≠ some longname := by
  simp [firstNamed?, Symbol.longname]

/-- A page is registered under the longname, the longname that encloses it, or the name of
globals. -/
theorem ownerOf_cases (needsFile : List String) (s : Symbol) (longname : String) :
    ownerOf needsFile s longname = longname ∨
    s.memberof = some (ownerOf needsFile s longname) ∨
    ownerOf needsFile s longname = globalName := by
  unfold ownerOf Placement.ofSymbol
  split_ifs
  · exact .inl rfl
  · cases s.memberof with
    | none => exact .inl rfl
    | some memberof => exact .inr (.inl rfl)
  · cases s.memberof with
    | none => exact .inr (.inr rfl)
    | some memberof => exact .inr (.inl rfl)

section OwnerOf
variable {needsFile : List String} {s : Symbol} {longname : String}

theorem ownerOf_of_hasPage
    (hPage : Placement.hasPage s (needsFile.contains longname) = true) :
    ownerOf needsFile s longname = longname := by
  rw [ownerOf, Placement.ofSymbol, if_pos hPage]

theorem ownerOf_of_memberof {parent : String}
    (hPage : Placement.hasPage s (needsFile.contains longname) = false)
    (hParent : s.memberof = some parent) : ownerOf needsFile s longname = parent := by
  rw [ownerOf, Placement.ofSymbol, if_neg (Bool.eq_false_iff.1 hPage)]
  split_ifs <;> rw [hParent, Option.getD_some]

theorem ownerOf_of_global
    (hPage : Placement.hasPage s (needsFile.contains longname) = false)
    (hParent : s.memberof = none) (hContainer : Placement.namedContainer? longname = none) :
    ownerOf needsFile s longname = globalName := by
  rw [ownerOf, Placement.ofSymbol, if_neg (Bool.eq_false_iff.1 hPage)]
  simp [hParent, hContainer]

end OwnerOf

/-- Whether a name is the longname of one of some symbols, or encloses one. -/
def Mentions (symbols : List Symbol) (name : String) : Prop :=
  ∃ s ∈ symbols, s.longname = some name ∨ s.memberof = some name

theorem Mentions.append {symbols : List Symbol} {name : String} (h : Mentions symbols name)
    (s : Symbol) : Mentions (symbols ++ [s]) name := by
  obtain ⟨t, ht, hName⟩ := h
  exact ⟨t, List.mem_append_left _ ht, hName⟩

namespace Linking

variable {l l' : Linking} {needsFile : List String} {done : List Symbol}

/-- Where the longnames of some symbols stand, if what encloses them came first. -/
structure AllPlaced (needsFile : List String) (l : Linking) (done : List Symbol) : Prop where
  global_url : l.registry.urlFor globalName = some LinkRegistry.globalUrl
  placed : ParentsFirst (done.map Symbol.doclet) → ∀ {longname s},
    firstNamed? done longname = some s → longname ≠ globalName →
      l.registry.PlacedAt (ownerOf needsFile s longname) longname

/-- What holds of a linking and the symbols that it has linked: only names that these mention
have addresses, and the symbols are placed. -/
structure HasPlaced (needsFile : List String) (l : Linking) (done : List Symbol) : Prop
    extends AllPlaced needsFile l done where
  mentioned : ∀ {name}, (l.registry.urlFor name).isSome → name = globalName ∨ Mentions done name

/-- One symbol more is linked. -/
theorem AllPlaced.append (h : AllPlaced needsFile l done) {s : Symbol}
    (hUrls : ∀ {name url}, l.registry.urlFor name = some url → l'.registry.urlFor name = some url)
    (hFiles : l.registry.KeepsFiles l'.registry)
    (hFirst : ParentsFirst ((done ++ [s]).map Symbol.doclet) → ∀ longname,
      s.longname = some longname → firstNamed? done longname = none → longname ≠ globalName →
      l'.registry.PlacedAt (ownerOf needsFile s longname) longname) :
    AllPlaced needsFile l' (done ++ [s]) := by
  refine ⟨hUrls h.global_url, fun hParents longname t hNamed hGlobal => ?_⟩
  have hOld : ParentsFirst (done.map Symbol.doclet) := by
    rw [List.map_append] at hParents
    exact hParents.of_append
  rw [firstNamed?_append] at hNamed
  cases hDone : firstNamed? done longname with
  | some u =>
    rw [hDone, Option.some_or] at hNamed
    obtain rfl := Option.some.inj hNamed
    exact (h.placed hOld hDone hGlobal).of_keep hUrls hFiles
  | none =>
    rw [hDone, Option.none_or] at hNamed
    split_ifs at hNamed with hLongname
    obtain rfl := Option.some.inj hNamed
    exact hFirst hParents longname hLongname hDone hGlobal

/-- A longname whose symbol is the first, after all that encloses it, has no address yet. -/
theorem HasPlaced.urlFor_eq_none (h : HasPlaced needsFile l done) {s : Symbol} {longname : String}
    (hParents : ParentsFirst ((done ++ [s]).map Symbol.doclet))
    (hLongname : s.longname = some longname) (hFirst : firstNamed? done longname = none)
    (hGlobal : longname ≠ globalName) : l.registry.urlFor longname = none := by
  rw [firstNamed?_eq_none_iff] at hFirst
  rw [List.map_append, List.map_singleton] at hParents
  have hMember := hParents.memberof_ne hLongname hFirst
  cases hUrl : l.registry.urlFor longname with
  | none => rfl
  | some url =>
    obtain hName | ⟨t, ht, hName | hName⟩ := h.mentioned (by rw [hUrl, Option.isSome_some])
    · exact absurd hName hGlobal
    · exact absurd hName (hFirst t.doclet (List.mem_map_of_mem ht))
    · exact absurd hName (hMember t.doclet (List.mem_append_left _ (List.mem_map_of_mem ht)))

/-- The link of one symbol gives an address to its longname and to the owner of its page. -/
theorem HasPlaced.link (h : HasPlaced needsFile l done) (s : Symbol) :
    ∃ s' l', l.link needsFile s = .ok (s', l') ∧ HasPlaced needsFile l' (done ++ [s']) := by
  cases hLongname : s.longname with
  | none =>
    have hPlaced : AllPlaced needsFile l (done ++ [s]) :=
      h.toAllPlaced.append id (.of_eq rfl) fun _ longname hName => by simp [hLongname] at hName
    exact ⟨s, l, l.link_of_none needsFile hLongname, hPlaced,
      fun hSome => (h.mentioned hSome).imp_right fun hName => hName.append s⟩
  | some longname =>
    obtain ⟨id, l', hLink, hUrls, hFiles⟩ := l.link_pages needsFile hLongname
    refine ⟨{ s with id }, l', hLink, ?_⟩
    have hSelf : Mentions (done ++ [{ s with id }]) longname :=
      ⟨{ s with id }, by simp, .inl hLongname⟩
    cases hOld : l.registry.urlFor longname with
    | some old =>
      rw [LinkRegistry.createLinkFor_of_urlFor _ hOld] at hUrls hFiles
      constructor
      case mentioned =>
        intro name hSome
        rw [hUrls] at hSome
        exact (h.mentioned hSome).imp_right fun hName => hName.append _
      case toAllPlaced =>
        refine h.toAllPlaced.append (fun hSome => (hUrls _).trans hSome) (.of_eq hFiles) ?_
        intro hParents other hOther hFirst hGlobal
        obtain rfl := Option.some.inj (hLongname.symm.trans hOther)
        simp [h.urlFor_eq_none hParents hOther hFirst hGlobal] at hOld
    | none =>
      obtain ⟨page, fragment, hLinks, -, -⟩ := l.registry.createLinkFor_of_none s
        (needsFile.contains longname) hOld
      constructor
      case mentioned =>
        intro name hSome
        rw [hUrls] at hSome
        by_cases hName : name = longname
        · exact .inr (hName ▸ hSelf)
        · by_cases hOwner : name = ownerOf needsFile s longname
          · rcases ownerOf_cases needsFile s longname with hIs | hIs | hIs
            · exact absurd (hOwner.trans hIs) hName
            · exact .inr ⟨{ s with id }, by simp, .inr (hOwner ▸ hIs)⟩
            · exact .inl (hOwner.trans hIs)
          · rw [hLinks.urlFor_of_ne name hOwner hName] at hSome
            exact (h.mentioned hSome).imp_right fun hName => hName.append _
      case toAllPlaced =>
        refine h.toAllPlaced.append
          (fun hSome => (hUrls _).trans (hLinks.urlFor_of_some hOld hSome))
          (hLinks.keepsFiles.trans (.of_eq hFiles)) ?_
        intro hParents other hOther hFirst hGlobal
        obtain rfl := Option.some.inj (hLongname.symm.trans hOther)
        exact (hLinks.placedAt hOld).of_keep (fun hSome => (hUrls _).trans hSome) (.of_eq hFiles)

/-- A page that is registered afterwards moves no symbol. -/
theorem AllPlaced.register (h : AllPlaced needsFile l done) (path : String) :
    AllPlaced needsFile { l with registry := (l.registry.register path none).2 } done where
  global_url := LinkRegistry.urlFor_register_of_some _ h.global_url path none
  placed hParents _ _ hNamed hGlobal := (h.placed hParents hNamed hGlobal).of_keep
    (fun hUrl => LinkRegistry.urlFor_register_of_some _ hUrl path none)
    (LinkRegistry.keepsFiles_register _ path none)

theorem HasPlaced.withTutorials (needsFile tutorials : List String) :
    HasPlaced needsFile { registry := .withTutorials tutorials } [] := by
  obtain ⟨hUrls, -⟩ := LinkRegistry.urls_fragments_withTutorials tutorials
  have hUrl : ∀ name, (LinkRegistry.withTutorials tutorials).urlFor name =
      LinkRegistry.fresh.urlFor name := fun name => by
    rw [LinkRegistry.urlFor, hUrls, LinkRegistry.urlFor]
  constructor
  case toAllPlaced =>
    refine ⟨?_, fun _ _ _ hNamed => by simp [firstNamed?] at hNamed⟩
    rw [hUrl]
    decide
  case mentioned =>
    intro name hSome
    rw [hUrl] at hSome
    obtain ⟨url, hFresh⟩ := Option.isSome_iff_exists.1 hSome
    exact .inl (LinkRegistry.eq_global_of_urlFor_fresh hFresh).1

end Linking

/-- In a finished index whose parents come first, the first symbol of a longname is on a page
of its own, on the page of what encloses it, or on the page of globals. -/
theorem placed_of_parentsFirst (tutorials : List String) (doclets : List Doclet)
    (registersSources : Bool)
    (hParents : ParentsFirst
      ((empty (.withTutorials tutorials) registersSources).ingest doclets).doclets) :
    ∃ ix, ((empty (.withTutorials tutorials) registersSources).ingest doclets).finalize = .ok ix ∧
      ∀ longname s, firstNamed? ix.retained longname = some s → longname ≠ globalName →
        (Placement.hasPage s (ix.needsFile longname) = true →
          ∃ url, ix.registry.urlFor longname = some url ∧ '#' ∉ url.toList ∧
            ix.registry.IssuedFor url longname ∧
            ∀ other t, firstNamed? ix.retained other = some t → other ≠ globalName →
              Placement.hasPage t (ix.needsFile other) = true →
              ix.registry.urlFor other = some url → other = longname) ∧
        (Placement.hasPage s (ix.needsFile longname) = false →
          (∀ parent, s.memberof = some parent →
            ∃ page, ix.registry.pageOf? longname = some page ∧
              ix.registry.pageOf? parent = some page) ∧
          (s.memberof = none → Placement.namedContainer? longname = none →
            ix.registry.pageOf? longname = some LinkRegistry.globalUrl)) := by
  have hOpen := (isOpen_empty (.withTutorials tutorials) registersSources).ingest doclets
  obtain ⟨ix, l, hFinalize, hFinal, hNeedsFile, hRegistry⟩ :=
    hOpen.finalize_induct_pages (P := Linking.HasPlaced _) (Q := Linking.AllPlaced _)
      (by rw [registry_ingest]; exact .withTutorials _ tutorials)
      (fun s _ l done h => h.link s) (fun l done h => h.toAllPlaced)
      (fun l done path h => h.register path)
  rw [← (finishes_of_finalize hFinalize).doclets_eq] at hParents
  rw [← hNeedsFile] at hFinal
  have hGlobalUrl := hFinal.global_url
  have hPlaced := fun {longname s} => @hFinal.placed hParents longname s
  rw [← hRegistry] at hGlobalUrl hPlaced
  refine ⟨ix, hFinalize, fun longname s hFirst hGlobal => ⟨fun hPage => ?_, fun hNoPage => ?_⟩⟩
  · obtain ⟨url, hUrl, hIssued⟩ := (hPlaced hFirst hGlobal).own (ownerOf_of_hasPage hPage)
    refine ⟨url, hUrl, hIssued.hash_not_mem, hIssued, ?_⟩
    intro other t hOther hGlobal' hPage' hUrl'
    obtain ⟨url', hUrl'', hIssued'⟩ := (hPlaced hOther hGlobal').own (ownerOf_of_hasPage hPage')
    obtain rfl := Option.some.inj (hUrl'.symm.trans hUrl'')
    exact hIssued'.inj hIssued
  · obtain ⟨page, hPage, hOwner⟩ := (hPlaced hFirst hGlobal).shared
    constructor
    · intro parent hParent
      rw [ownerOf_of_memberof hNoPage hParent] at hOwner
      exact ⟨page, hPage, hOwner⟩
    · intro hParent hContainer
      rw [ownerOf_of_global hNoPage hParent hContainer,
        LinkRegistry.pageOf?_of_urlFor hGlobalUrl] at hOwner
      rw [hPage, ← hOwner, splitFragment_of_not_mem LinkRegistry.hash_not_mem_globalUrl]

/-- A class has its page, and its method stands on it. -/
theorem placed_class_method :
    ParentsFirst ((empty (.withTutorials []) true).ingest [.bare "class" "Foo" "Foo" none,
      .bare "function" "Foo.bar" "bar" (some "Foo")]).doclets ∧
    ∃ ix, ((empty (.withTutorials []) true).ingest [.bare "class" "Foo" "Foo" none,
        .bare "function" "Foo.bar" "bar" (some "Foo")]).finalize = .ok ix ∧
      (∃ s, firstNamed? ix.retained "Foo" = some s ∧
        Placement.hasPage s (ix.needsFile "Foo") = true ∧
        ∃ url, ix.registry.urlFor "Foo" = some url ∧ '#' ∉ url.toList ∧
          ix.registry.IssuedFor url "Foo") ∧
      ∃ s, firstNamed? ix.retained "Foo.bar" = some s ∧
        Placement.hasPage s (ix.needsFile "Foo.bar") = false ∧ s.memberof = some "Foo" ∧
        ∃ page, ix.registry.pageOf? "Foo.bar" = some page ∧
          ix.registry.pageOf? "Foo" = some page := by
  have hParents : ParentsFirst ((empty (.withTutorials []) true).ingest
      [.bare "class" "Foo" "Foo" none, .bare "function" "Foo.bar" "bar" (some "Foo")]).doclets := by
    decide +kernel
  obtain ⟨ix, hFinalize, hPlaced⟩ := placed_of_parentsFirst [] _ true hParents
  have hNamed : ((((empty (.withTutorials []) true).ingest [.bare "class" "Foo" "Foo" none,
        .bare "function" "Foo.bar" "bar" (some "Foo")]).finalize.toOption.map fun ix =>
      ((firstNamed? ix.retained "Foo").map fun s => Placement.hasPage s (ix.needsFile "Foo"),
        (firstNamed? ix.retained "Foo.bar").map fun s =>
          (Placement.hasPage s (ix.needsFile "Foo.bar"), s.memberof)))) =
        some (some true, some (false, some "Foo")) := by
    decide +kernel
  rw [hFinalize] at hNamed
  obtain ⟨hClass, hMethod⟩ := Prod.mk.inj (Option.some.inj hNamed)
  obtain ⟨c, hFirst, hPage⟩ := Option.map_eq_some_iff.1 hClass
  obtain ⟨m, hFirst', hEq⟩ := Option.map_eq_some_iff.1 hMethod
  obtain ⟨hNoPage, hParent⟩ := Prod.mk.inj hEq
  obtain ⟨url, hUrl, hHash, hIssued, -⟩ := (hPlaced "Foo" c hFirst (by decide)).1 hPage
  exact ⟨hParents, ix, hFinalize, ⟨c, hFirst, hPage, url, hUrl, hHash, hIssued⟩, m, hFirst', hNoPage,
    hParent, ((hPlaced "Foo.bar" m hFirst' (by decide)).2 hNoPage).1 "Foo" hParent⟩

end SymbolIndex

end DocSite

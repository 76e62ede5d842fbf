import DocSite.Proofs.Build.Beginning
import DocSite.Proofs.Build.Written
import DocSite.Proofs.Symbol.ShownIds

/-! The ids of the sections on a page. What a view is given of the page of a longname, or of the
page of globals, lists the symbols shown in the order of their sections, and the ids of the
sections are those of the symbols. -/

namespace DocSite

/-! ### Data of pages -/

namespace Datum

def items : Datum → List Datum
  | .list items => items
  | _ => []

/-- The values of a mapping, in the order of its entries. -/
def values : Datum → List Datum
  | .dict entries => entries.map (·.2)
  | _ => []

/-- The id that the section of a symbol shows, unless it is empty. -/
def sectionId? (symbol : Datum) : Option String :=
  match symbol.field? "id" with
  | some (.text id) => if id = "" then none else some id
  | _ => none

/-- The ids of all sections on a page of symbols, in their order: each documented symbol is
followed by what it exports, and the members come last. -/
def sectionIds (page : Datum) : List String :=
  ((page.field? "docs").getD .null).items.flatMap (fun doc =>
    (doc :: (doc.field? "exports").toList).filterMap sectionId?) ++
  ((page.field? "members").getD .null).values.flatMap (·.items.filterMap sectionId?)

end Datum

namespace SymbolIndex

variable (ix : SymbolIndex)

theorem sectionId?_ownFields (s : Symbol) (more : List (String × Datum)) :
    (Datum.ofFields (s.ownFields ++ more)).sectionId? = s.id.filter (· != "") := by
  rw [Datum.sectionId?, Datum.field?_ofFields]
  cases hId : s.id with
  | none => simp [Symbol.ownFields, Dict.get?, hId, Datum.ofText?]
  | some id =>
    by_cases hEmpty : id = "" <;>
      simp [Symbol.ownFields, Dict.get?, hId, Datum.ofText?, hEmpty, Option.filter]

theorem field?_exports (s : Symbol) : (ix.symbolData s).field? "exports" =
    some ((s.exported.bind ix.symbolAt?).elim .null fun e => .ofFields e.ownFields) := by
  rw [symbolData, Datum.field?_ofFields]
  cases s.exported.bind ix.symbolAt? <;> simp [Symbol.ownFields, Dict.get?]

variable {ix}

theorem sectionId?_symbolData {place : ℕ} {s : Symbol} (h : ix.symbolAt? place = some s) :
    (ix.symbolData s).sectionId? = ix.idAt? place := by
  rw [symbolData, sectionId?_ownFields, idAt?, h, Option.bind_some]

/-- The section of a documented symbol and that of what it exports show their ids. -/
theorem sectionIds_symbolData {place : ℕ} {s : Symbol} (h : ix.symbolAt? place = some s) :
    (ix.symbolData s :: ((ix.symbolData s).field? "exports").toList).filterMap Datum.sectionId? =
      (place :: (ix.exportAt? place).toList).filterMap ix.idAt? := by
  have hExport : ((ix.symbolData s).field? "exports").toList.filterMap Datum.sectionId? =
      (ix.exportAt? place).toList.filterMap ix.idAt? := by
    rw [field?_exports, exportAt?, h, Option.bind_some]
    cases s.exported with
    | none => rfl
    | some e =>
      cases hAt : ix.symbolAt? e with
      | none => simp [Datum.sectionId?, Datum.field?, idAt?, hAt]
      | some exported =>
        have hId := sectionId?_ownFields exported []
        have hSame : (Datum.ofFields exported.ownFields).sectionId? = ix.idAt? e := by
          rw [List.append_nil] at hId
          rw [hId, idAt?, hAt, Option.bind_some]
        simp only [Option.bind_some, Option.elim_some, hAt, Option.toList_some,
          List.filterMap_cons, List.filterMap_nil, hSame]
  rw [List.filterMap_cons, List.filterMap_cons, sectionId?_symbolData h, hExport]

variable (ix)

/-- The ids of listed symbols, each with what it exports. -/
theorem sectionIds_docs (places : List ℕ) :
    ((ix.symbolsData places).items.flatMap fun doc =>
      (doc :: (doc.field? "exports").toList).filterMap Datum.sectionId?) =
      (places.flatMap fun p => p :: (ix.exportAt? p).toList).filterMap ix.idAt? := by
  rw [symbolsData, Datum.items]
  induction places with
  | nil => rfl
  | cons place places ih =>
    rw [List.flatMap_cons, List.filterMap_append, ← ih]
    cases hAt : ix.symbolAt? place with
    | none => simp [idAt?, exportAt?, hAt]
    | some s =>
      rw [← sectionIds_symbolData hAt, List.filterMap_cons, hAt]
      rfl

/-- The ids of the symbols of a bucket. -/
theorem sectionIds_members (bucket : Bucket) :
    ((ix.bucketData bucket).values.flatMap (·.items.filterMap Datum.sectionId?)) =
      bucket.toList.filterMap ix.idAt? := by
  have hList (places : List ℕ) : (ix.symbolsData places).items.filterMap Datum.sectionId? =
      places.filterMap ix.idAt? := by
    rw [symbolsData, Datum.items, List.filterMap_map, List.filterMap_filterMap]
    refine List.filterMap_congr fun place _ => ?_
    cases hAt : ix.symbolAt? place with
    | none => simp [idAt?, hAt]
    | some s => exact sectionId?_symbolData hAt
  have hAll (cs : List Category) :
      (((cs.map fun c => (c, bucket.get c)).filter fun e => !e.2.isEmpty).flatMap fun e =>
        e.2.filterMap ix.idAt?) = (cs.flatMap bucket.get).filterMap ix.idAt? := by
    induction cs with
    | nil => rfl
    | cons c cs ih =>
      rw [List.flatMap_cons, List.filterMap_append, ← ih]
      cases hGet : bucket.get c <;> simp [hGet]
  rw [bucketData, Datum.ofFields, Datum.values, Bucket.categories, Bucket.toList, ← hAll]
  simp only [List.map_map, List.flatMap_map, Function.comp_apply, hList]

end SymbolIndex

/-! ### Pages of a build -/

namespace Build

variable (b : Build)

/-- The places of the symbols that the page of a longname documents. -/
def documentedBy (longname : String) : List ℕ :=
  (BuildM.pageCategories b longname).flatMap (b.index.symbolsFor longname).get

/-- What the page of a longname is made from. -/
def symbolPageData (longname : String) : Datum :=
  let categories := BuildM.pageCategories b longname
  .ofFields
    [("docs", b.index.symbolsData (b.documentedBy longname)),
     ("categories", .ofTexts (categories.map Category.label)),
     ("members", b.index.bucketData (b.index.membersOf longname)),
     ("page_title", .text (b.pageTitle ((categories.head?.map Category.titleLead).getD "" ++
        Longname.displayName longname)))]

/-- What the page of globals is made from. -/
def globalsPageData : Datum :=
  .ofFields [("members", b.index.bucketData b.index.globals),
    ("page_title", .text (b.pageTitle Category.globals.titleLead))]

theorem sectionIds_symbolPageData (longname : String) : (b.symbolPageData longname).sectionIds =
    (b.index.shownOn (b.documentedBy longname) (b.index.membersOf longname).toList).filterMap
      b.index.idAt? := by
  have hDocs : (b.symbolPageData longname).field? "docs" =
      some (b.index.symbolsData (b.documentedBy longname)) := by
    rw [symbolPageData, Datum.field?_ofFields]
    simp [Dict.get?]
  have hMembers : (b.symbolPageData longname).field? "members" =
      some (b.index.bucketData (b.index.membersOf longname)) := by
    rw [symbolPageData, Datum.field?_ofFields]
    simp [Dict.get?]
  rw [Datum.sectionIds, hDocs, hMembers, Option.getD_some, Option.getD_some,
    SymbolIndex.sectionIds_docs, SymbolIndex.sectionIds_members, SymbolIndex.shownOn,
    List.filterMap_append]

theorem sectionIds_globalsPageData : b.globalsPageData.sectionIds =
    (b.index.shownOn [] b.index.globals.toList).filterMap b.index.idAt? := by
  have hDocs : b.globalsPageData.field? "docs" = none := by
    rw [globalsPageData, Datum.field?_ofFields]
    simp [Dict.get?]
  have hMembers : b.globalsPageData.field? "members" =
      some (b.index.bucketData b.index.globals) := by
    rw [globalsPageData, Datum.field?_ofFields]
    simp [Dict.get?]
  rw [Datum.sectionIds, hDocs, hMembers, Option.getD_some, SymbolIndex.sectionIds_members]
  rfl

variable {b}

/-- The page of a longname shows the data of the page. -/
theorem run_symbolPage {longname url : String} (h : b.hasSymbolPage longname = true)
    (hUrl : b.registry.urlFor longname = some url) : (BuildM.symbolPage longname).run.run b =
      (BuildM.generate "symbol" (b.symbolPageData longname) url true).run.run b := by
  obtain ⟨hPackage, hCategories⟩ := Bool.and_eq_true_iff.1 h
  rw [Bool.not_eq_true'] at hPackage
  rw [BuildM.symbolPage, run_get_bind, hPackage, if_neg Bool.false_ne_true]
  cases hPages : BuildM.pageCategories b longname with
  | nil => simp [hPages] at hCategories
  | cons first rest =>
    have hData : b.symbolPageData longname = .ofFields
        [("docs", b.index.symbolsData
          ((first :: rest).flatMap (b.index.symbolsFor longname).get)),
         ("categories", .ofTexts ((first :: rest).map Category.label)),
         ("members", b.index.bucketData (b.index.membersOf longname)),
         ("page_title",
          .text (b.pageTitle (first.titleLead ++ Longname.displayName longname)))] := by
      rw [symbolPageData, documentedBy, hPages]
      rfl
    rw [hData]
    dsimp only
    rw [hUrl]

theorem run_globalsPage (h : b.index.globals.hasSymbols none = true) :
    BuildM.globalsPage.run.run b = (BuildM.generate "globals" b.globalsPageData
      LinkRegistry.globalUrl true).run.run b := by
  rw [BuildM.globalsPage, run_get_bind, if_neg (by simp [h]), globalsPageData]

/-- A page of a longname documents a symbol. -/
theorem exists_documented {longname : String} (h : b.hasSymbolPage longname = true) :
    ∃ place, place ∈ b.documentedBy longname := by
  obtain ⟨-, hCategories⟩ := Bool.and_eq_true_iff.1 h
  cases hPages : BuildM.pageCategories b longname with
  | nil => simp [hPages] at hCategories
  | cons first rest =>
    have hFirst : first ∈ BuildM.pageCategories b longname := by simp [hPages]
    have hSymbols := (Bool.and_eq_true_iff.1 (List.mem_filter.1 hFirst).2).2
    obtain ⟨place, hPlace⟩ := List.exists_mem_of_ne_nil _ (by simpa [Bucket.hasSymbols] using hSymbols)
    exact ⟨place, List.mem_flatMap.2 ⟨first, hFirst, hPlace⟩⟩

/-- An index can always be finished. Then the page of a longname and the page of globals show
their data, and the ids of the sections on them are different exactly if no documented symbol is
its own member, no export is shared and no member whose address leads to another page has the
id of a symbol with an address elsewhere. -/
theorem nodup_sectionIds_iff (tutorials : List String) (doclets : List Doclet)
    (registersSources : Bool) :
    ∃ ix, ((SymbolIndex.empty (.withTutorials tutorials) registersSources).ingest
        doclets).finalize = .ok ix ∧
      ∀ b : Build, b.index = ix →
        (∀ longname, b.hasSymbolPage longname = true →
          ∃ url, ix.registry.urlFor longname = some url ∧
            (BuildM.symbolPage longname).run.run b =
              (BuildM.generate "symbol" (b.symbolPageData longname) url true).run.run b ∧
            ((b.symbolPageData longname).sectionIds.Nodup ↔
              ix.SectionsApart (ix.registry.pageOf? longname) (b.documentedBy longname)
                (ix.membersOf longname).toList)) ∧
        (ix.globals.hasSymbols none = true →
          BuildM.globalsPage.run.run b = (BuildM.generate "globals" b.globalsPageData
            LinkRegistry.globalUrl true).run.run b ∧
          (b.globalsPageData.sectionIds.Nodup ↔
            ix.SectionsApart (some LinkRegistry.globalUrl) [] ix.globals.toList)) := by
  obtain ⟨ix, hFinalize, hPages, hLinked⟩ :=
    SymbolIndex.exists_apartOnPages tutorials doclets registersSources
  refine ⟨ix, hFinalize, ?_⟩
  rintro b rfl
  constructor
  · intro longname hPage
    have hShows := SymbolIndex.showsOnce_symbolPage hFinalize
      (Category.nodup_all.filter _ : (BuildM.pageCategories b longname).Nodup) longname
    obtain ⟨place, hPlace⟩ := exists_documented hPage
    obtain ⟨url, hUrl⟩ := Option.isSome_iff_exists.1
      (SymbolIndex.isSome_urlFor_of_mem_symbolsFor hFinalize hLinked hPlace)
    refine ⟨url, hUrl, run_symbolPage hPage hUrl, ?_⟩
    rw [sectionIds_symbolPageData]
    exact SymbolIndex.nodup_filterMap_idAt?_iff hShows hPages
  · intro hGlobals
    refine ⟨run_globalsPage hGlobals, ?_⟩
    rw [sectionIds_globalsPageData]
    exact SymbolIndex.nodup_filterMap_idAt?_iff
      (SymbolIndex.showsOnce_globalsPage hFinalize _) hPages

/-- A site of a class within a class of the same name. -/
def nestedClassSite : SiteRequest where
  doclets := [.bare "class" "Foo" "Foo" none, .bare "class" "Foo.Foo" "Foo" (some "Foo")]
  destination := ⟨.here, ["site"]⟩
  template := some ⟨.here, ["template"]⟩
  base := ⟨.root, []⟩

/-- The inner class has the id of a page of its own, and is a section on the page of the outer
one too, which has the same id there. -/
theorem not_nodup_sectionIds_nestedClassSite :
    ∃ b, (nestedClassSite.build SiteRequest.projectFiles).1 = .ok b ∧ b.hasSymbolPage "Foo" = true ∧
      (b.symbolPageData "Foo").sectionIds = ["Foo", "Foo"] := by
  have hRun : ((nestedClassSite.build SiteRequest.projectFiles).1.toOption.map fun b =>
      (b.hasSymbolPage "Foo", (b.symbolPageData "Foo").sectionIds)) =
        some (true, ["Foo", "Foo"]) := by
    rw [SiteRequest.build,
      SiteRequest.prepare_of_templateIn (SiteRequest.templateIn_projectFiles rfl)]
    decide +kernel
  obtain ⟨b, hBuild, hEq⟩ := Option.map_eq_some_iff.1 hRun
  obtain ⟨hPage, hIds⟩ := Prod.mk.inj hEq
  exact ⟨b, eq_ok_of_toOption hBuild, hPage, hIds⟩

end Build

end DocSite

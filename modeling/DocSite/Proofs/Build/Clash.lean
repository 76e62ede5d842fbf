import DocSite.Proofs.Build.Written
import DocSite.Proofs.Files.Names
import DocSite.Proofs.Link.PagesApart

/-! When one page of a site overwrites another. Two pages are written to one file exactly if
their addresses lead to one page. Registered pages are apart, so this needs a page whose
address was not registered for it alone: that of a source file, whose path is also a
name or was recorded twice, or that of globals, whose address a longname may have too. -/

namespace DocSite

/-! ### Files of pages -/

namespace Path

theorem child_injective (p : Path) : Function.Injective p.child := by
  intro name other h
  have hParts := congrArg Path.parts h
  simpa using hParts

end Path

namespace Build

variable (b : Build)

/-- The page in a file of the registry is written to that file. -/
theorem outputPath_of_page {url base : String}
    (h : (splitFragment url).1 = LinkRegistry.pageUrl base)
    (hSafe : ∀ c ∈ base.toList, FileName.IsSafe c) :
    b.outputPath url = b.destination.child (base ++ fileExtension) := by
  have hSlash : '/' ∉ (base ++ fileExtension).toList := by
    rw [String.toList_append, List.mem_append]
    rintro (hBase | hExtension)
    · exact absurd (hSafe _ hBase).1 (by decide)
    · revert hExtension
      decide
  have hLonger : ∀ cs : List Char, cs.length < 5 → (base ++ fileExtension).toList ≠ cs := by
    rintro cs hShort rfl
    have hExtension : fileExtension.toList.length = 5 := by decide
    rw [String.toList_append, List.length_append] at hShort
    omega
  have hPart : Path.isPart (base ++ fileExtension).toList = true := by
    simp only [Path.isPart, Bool.and_eq_true, bne_iff_ne]
    exact ⟨hLonger [] (by decide), hLonger ['.'] (by decide)⟩
  rw [outputPath, h, LinkRegistry.pageUrl, Text.percentDecode_percentEncode,
    Path.ofString_of_not_mem hSlash hPart]
  rfl

theorem outputPath_tocUrl :
    b.outputPath BuildM.tocUrl =
      { b.destination with parts := b.destination.parts ++ ["scripts", "toc.js"] } := by
  have hPath : Path.ofString (Text.percentDecode (splitFragment BuildM.tocUrl).1) =
      ⟨.here, ["scripts", "toc.js"]⟩ := by decide
  rw [outputPath, hPath]
  rfl

end Build

/-! ### Pages that fall together -/

namespace SitePage

/-- The page that the address of a page leads to. -/
def page? (r : LinkRegistry) (p : SitePage) : Option String :=
  (p.url? r).map fun url => (splitFragment url).1

/-- The name that a page is registered under, unless it has an address of its own kind. -/
def name? : SitePage → Option String
  | .source shown => some shown
  | .globals => some globalName
  | .symbol longname => some longname
  | .index | .tutorial _ | .toc => none

/-- The place of a page among the kinds of pages, in the order in which they are made. -/
def rank : SitePage → Nat
  | .source _ => 0
  | .globals => 1
  | .index => 2
  | .symbol _ => 3
  | .tutorial _ => 4
  | .toc => 5

/-- Whether a page and a later one are written to one file: two source pages whose paths lead to
one page, a source page on that of globals or of a longname, or the pages of globals and of
the longname with that name. -/
def Clash (r : LinkRegistry) : SitePage → SitePage → Prop
  | .source shown, .source other => r.pageOf? shown = r.pageOf? other
  | .source shown, .globals => r.pageOf? shown = some LinkRegistry.globalUrl
  | .source shown, .symbol longname => r.pageOf? shown = r.pageOf? longname
  | .globals, .symbol longname => longname = globalName
  | _, _ => False

variable {needsFile : List String} {r : LinkRegistry}

section PagesApart
variable (h : r.PagesApart (LinkRegistry.Owns needsFile))
include h

theorem url?_of_name {p : SitePage} {name : String} (hName : p.name? = some name) :
    p.url? r = r.urlFor name := by
  cases p with
  | source shown =>
    obtain rfl := Option.some.inj hName
    rfl
  | globals =>
    obtain rfl := Option.some.inj hName
    exact h.global_url.symm
  | symbol longname =>
    obtain rfl := Option.some.inj hName
    rfl
  | index => simp [name?] at hName
  | tutorial _ => simp [name?] at hName
  | toc => simp [name?] at hName

theorem page?_of_name {p : SitePage} {name : String} (hName : p.name? = some name) :
    p.page? r = r.pageOf? name := by
  rw [page?, url?_of_name h hName, LinkRegistry.pageOf?]

/-- A named page is in a file that is neither that of the front page nor of a tutorial. -/
theorem exists_base_of_name {p : SitePage} {name : String} (hName : p.name? = some name)
    (hLinked : (p.url? r).isSome) :
    ∃ base, r.IsFile base ∧ p.page? r = some (LinkRegistry.pageUrl base) ∧
      base ≠ LinkRegistry.indexBase ∧
      ∀ tutorial, r.tutorialUrl tutorial ≠ some (LinkRegistry.pageUrl base) := by
  rw [url?_of_name h hName] at hLinked
  obtain ⟨url, hUrl⟩ := Option.isSome_iff_exists.1 hLinked
  obtain ⟨base, hBase, hIndex, hEq, hTutorial⟩ := h.named hUrl
  refine ⟨base, hBase, ?_, hIndex, hTutorial⟩
  rw [page?_of_name h hName, LinkRegistry.pageOf?, hUrl, Option.map_some, hEq]

theorem exists_base_of_tutorial {name : String}
    (hLinked : ((SitePage.tutorial name).url? r).isSome) :
    ∃ base, r.IsFile base ∧ base ≠ LinkRegistry.indexBase ∧
      (SitePage.tutorial name).page? r = some (LinkRegistry.pageUrl base) ∧
      r.tutorialUrl name = some (LinkRegistry.pageUrl base) := by
  obtain ⟨url, hUrl⟩ := Option.isSome_iff_exists.1 hLinked
  obtain ⟨base, hBase, hIndex, rfl⟩ := h.tutorial hUrl
  refine ⟨base, hBase, hIndex, ?_, hUrl⟩
  rw [page?, hUrl, Option.map_some,
    splitFragment_of_not_mem (LinkRegistry.hash_not_mem_pageUrl hBase.1)]

omit h in
theorem page?_index :
    SitePage.index.page? r = some (LinkRegistry.pageUrl LinkRegistry.indexBase) := by
  rw [page?, url?, Option.map_some, ← LinkRegistry.pageUrl_indexBase, splitFragment_of_not_mem
    (LinkRegistry.hash_not_mem_pageUrl LinkRegistry.isSafe_indexBase)]

/-- A page other than the table of contents is in a file of the registry. -/
theorem exists_base {p : SitePage} (hToc : p ≠ .toc) (hLinked : (p.url? r).isSome) :
    ∃ base, (∀ c ∈ base.toList, FileName.IsSafe c) ∧
      p.page? r = some (LinkRegistry.pageUrl base) := by
  cases hName : p.name? with
  | some name =>
    obtain ⟨base, hBase, hPage, -⟩ := exists_base_of_name h hName hLinked
    exact ⟨base, hBase.1, hPage⟩
  | none =>
    cases p with
    | index => exact ⟨LinkRegistry.indexBase, h.index_isFile.1, page?_index⟩
    | tutorial name =>
      obtain ⟨base, hBase, -, hPage, -⟩ := exists_base_of_tutorial h hLinked
      exact ⟨base, hBase.1, hPage⟩
    | toc => exact absurd rfl hToc
    | source _ => simp [name?] at hName
    | globals => simp [name?] at hName
    | symbol _ => simp [name?] at hName

/-- A named page is not the front page. -/
theorem page?_ne_index {p : SitePage} {name : String} (hName : p.name? = some name)
    (hLinked : (p.url? r).isSome) : p.page? r ≠ SitePage.index.page? r := by
  obtain ⟨base, -, hPage, hIndex, -⟩ := exists_base_of_name h hName hLinked
  rw [hPage, page?_index]
  exact fun hEq => hIndex (LinkRegistry.pageUrl_injective (Option.some.inj hEq))

theorem page?_ne_tutorial {p : SitePage} {name tutorial : String} (hName : p.name? = some name)
    (hLinked : (p.url? r).isSome) (hTutorial : ((SitePage.tutorial tutorial).url? r).isSome) :
    p.page? r ≠ (SitePage.tutorial tutorial).page? r := by
  obtain ⟨base, -, hPage, -, hNo⟩ := exists_base_of_name h hName hLinked
  obtain ⟨other, -, -, hPage', hUrl⟩ := exists_base_of_tutorial h hTutorial
  rw [hPage, hPage']
  exact fun hEq => hNo tutorial (hUrl.trans hEq.symm)

theorem page?_index_ne_tutorial {tutorial : String}
    (hTutorial : ((SitePage.tutorial tutorial).url? r).isSome) :
    SitePage.index.page? r ≠ (SitePage.tutorial tutorial).page? r := by
  obtain ⟨base, -, hIndex, hPage, -⟩ := exists_base_of_tutorial h hTutorial
  rw [hPage, page?_index]
  exact fun hEq => hIndex (LinkRegistry.pageUrl_injective (Option.some.inj hEq)).symm

theorem tutorial_of_page?_eq {name other : String}
    (hName : ((SitePage.tutorial name).url? r).isSome)
    (hOther : ((SitePage.tutorial other).url? r).isSome)
    (hEq : (SitePage.tutorial name).page? r = (SitePage.tutorial other).page? r) :
    name = other := by
  obtain ⟨base, -, -, hPage, hUrl⟩ := exists_base_of_tutorial h hName
  obtain ⟨base', -, -, hPage', hUrl'⟩ := exists_base_of_tutorial h hOther
  rw [hPage, hPage'] at hEq
  exact h.tutorial_inj hUrl (hUrl'.trans hEq.symm)

/-- Names that own their pages have each its own. -/
theorem name_of_pageOf?_eq {name other : String} (hOwns : LinkRegistry.Owns needsFile name)
    (hOwns' : LinkRegistry.Owns needsFile other) (hLinked : (r.urlFor name).isSome)
    (hLinked' : (r.urlFor other).isSome) (hEq : r.pageOf? name = r.pageOf? other) :
    name = other := by
  obtain ⟨url, hUrl⟩ := Option.isSome_iff_exists.1 hLinked
  obtain ⟨url', hUrl'⟩ := Option.isSome_iff_exists.1 hLinked'
  rw [LinkRegistry.pageOf?, LinkRegistry.pageOf?, hUrl, hUrl', Option.map_some, Option.map_some,
    splitFragment_of_not_mem (h.own_page hOwns hUrl),
    splitFragment_of_not_mem (h.own_page hOwns' hUrl')] at hEq
  exact h.own_inj hOwns hOwns' hUrl (hUrl'.trans hEq.symm)

/-- Of two pages that are made in this order, the later one has the page of the earlier one
exactly if they clash. -/
theorem page?_eq_iff_clash {p q : SitePage} (hLinked : (p.url? r).isSome)
    (hLinked' : (q.url? r).isSome) (hOrder : p.rank ≤ q.rank) (hSame : p = q → p.rank = 0)
    (hToc : q ≠ .toc) (hNeeds : ∀ longname, p = .symbol longname → longname ∈ needsFile)
    (hNeeds' : ∀ longname, q = .symbol longname → longname ∈ needsFile) :
    p.page? r = q.page? r ↔ Clash r p q := by
  have hGlobal : r.pageOf? globalName = some LinkRegistry.globalUrl := by
    rw [LinkRegistry.pageOf?, h.global_url, Option.map_some,
      splitFragment_of_not_mem LinkRegistry.hash_not_mem_globalUrl]
  -- the order leaves out the pairs whose first page is made later
  cases p <;> cases q <;> first
    | exact absurd rfl hToc
    | (simp [rank] at hOrder; done)
    | skip
  case source.source => exact Iff.rfl
  case source.globals =>
    rw [page?_of_name h (rfl : SitePage.globals.name? = some globalName), hGlobal]
    exact Iff.rfl
  case source.index => exact iff_of_false (page?_ne_index h rfl hLinked) id
  case source.symbol => exact Iff.rfl
  case source.tutorial => exact iff_of_false (page?_ne_tutorial h rfl hLinked hLinked') id
  case globals.globals => exact absurd (hSame rfl) (by decide)
  case globals.index => exact iff_of_false (page?_ne_index h rfl hLinked) id
  case globals.symbol longname =>
    rw [page?_of_name h (rfl : SitePage.globals.name? = some globalName)]
    constructor
    · intro hEq
      exact (name_of_pageOf?_eq h (.inr rfl) (.inl (hNeeds' longname rfl))
        (by simp [h.global_url]) hLinked' hEq).symm
    · rintro rfl
      rfl
  case globals.tutorial => exact iff_of_false (page?_ne_tutorial h rfl hLinked hLinked') id
  case index.index => exact absurd (hSame rfl) (by decide)
  case index.symbol => exact iff_of_false (page?_ne_index h rfl hLinked').symm id
  case index.tutorial => exact iff_of_false (page?_index_ne_tutorial h hLinked') id
  case symbol.symbol longname other =>
    refine iff_of_false (fun hEq => ?_) id
    have hName := name_of_pageOf?_eq h (.inl (hNeeds longname rfl)) (.inl (hNeeds' other rfl))
      hLinked hLinked' hEq
    exact absurd (hSame (congrArg SitePage.symbol hName)) (by simp [rank])
  case symbol.tutorial => exact iff_of_false (page?_ne_tutorial h rfl hLinked hLinked') id
  case tutorial.tutorial name other =>
    refine iff_of_false (fun hEq => ?_) id
    have hName := tutorial_of_page?_eq h hLinked hLinked' hEq
    exact absurd (hSame (congrArg SitePage.tutorial hName)) (by simp [rank])

end PagesApart

/-- Pages in the order of their kinds, of which only source pages may come twice. -/
def Ordered (pages : List SitePage) : Prop :=
  pages.Pairwise fun p q => p.rank ≤ q.rank ∧ (p = q → p.rank = 0)

theorem ordered_of_nodup {pages : List SitePage} {n : ℕ} (hRank : ∀ p ∈ pages, p.rank = n)
    (hNodup : pages.Nodup) : Ordered pages := by
  refine List.Pairwise.imp_of_mem (fun {p q} hp hq hNe => ?_) hNodup
  exact ⟨by rw [hRank p hp, hRank q hq], fun hEq => absurd hEq hNe⟩

theorem ordered_of_rank_eq_zero {pages : List SitePage} (hRank : ∀ p ∈ pages, p.rank = 0) :
    Ordered pages :=
  List.pairwise_of_forall_mem_list fun p hp q hq =>
    ⟨by rw [hRank p hp, hRank q hq], fun _ => hRank p hp⟩

/-- Pages of a later kind may follow. -/
theorem Ordered.append {xs ys : List SitePage} {n m : ℕ} (hx : Ordered xs ∧ ∀ p ∈ xs, p.rank ≤ n)
    (hLess : n < m) (hRank : ∀ q ∈ ys, q.rank = m) (hy : Ordered ys) :
    Ordered (xs ++ ys) ∧ ∀ p ∈ xs ++ ys, p.rank ≤ m := by
  constructor
  · refine List.pairwise_append.2 ⟨hx.1, hy, fun p hp q hq => ?_⟩
    have hBefore := hx.2 p hp
    have hAfter := hRank q hq
    exact ⟨by omega, fun hEq => absurd (congrArg rank hEq) (by omega)⟩
  · intro p hp
    rcases List.mem_append.1 hp with hp | hp
    · exact (hx.2 p hp).trans hLess.le
    · exact (hRank p hp).le

end SitePage

namespace Build

variable {b : Build} {needsFile : List String}

theorem rank_of_mem_sourcePlan {p : SitePage} (h : p ∈ b.sourcePlan) : p.rank = 0 := by
  unfold sourcePlan at h
  split at h
  · obtain ⟨shown, -, rfl⟩ := List.mem_map.1 h
    rfl
  · exact absurd h List.not_mem_nil

theorem rank_of_mem_globalsPlan {p : SitePage} (h : p ∈ b.globalsPlan) : p.rank = 1 := by
  unfold globalsPlan at h
  split at h
  · rw [List.mem_singleton.1 h]
    rfl
  · exact absurd h List.not_mem_nil

theorem rank_of_mem_symbolPlan {p : SitePage} (h : p ∈ b.symbolPlan) : p.rank = 3 := by
  obtain ⟨longname, -, rfl⟩ := List.mem_map.1 h
  rfl

theorem rank_of_mem_tutorialPlan {tree : TutorialTree} {p : SitePage}
    (h : p ∈ tutorialPlan tree) : p.rank = 4 := by
  obtain ⟨t, -, rfl⟩ := List.mem_map.1 h
  rfl

/-- Only longnames that are recorded as having a page have one. -/
theorem mem_outputLongnames_of_mem_plan {tree : TutorialTree} {longname : String}
    (h : .symbol longname ∈ b.plan tree) : longname ∈ b.index.outputLongnames := by
  simp only [plan, List.mem_append, List.mem_singleton] at h
  obtain ((((h | h) | h) | h) | h) | h := h
  · exact absurd (rank_of_mem_sourcePlan h) (by simp [SitePage.rank])
  · exact absurd (rank_of_mem_globalsPlan h) (by simp [SitePage.rank])
  · exact absurd h (by simp)
  · obtain ⟨other, hMem, hEq⟩ := List.mem_map.1 h
    exact SitePage.symbol.inj hEq ▸ (List.mem_filter.1 hMem).1
  · exact absurd (rank_of_mem_tutorialPlan h) (by simp [SitePage.rank])
  · exact absurd h (by simp)

theorem ordered_plan {tree : TutorialTree} (hNames : (tree.tutorials.map Tutorial.name).Nodup)
    (hLongnames : b.index.outputLongnames.Nodup) : SitePage.Ordered (b.plan tree) := by
  have hSources := SitePage.ordered_of_rank_eq_zero fun p => b.rank_of_mem_sourcePlan
  have hGlobals : SitePage.Ordered b.globalsPlan :=
    SitePage.ordered_of_nodup (fun p => rank_of_mem_globalsPlan)
      (by unfold globalsPlan; split <;> simp)
  have hSymbols : SitePage.Ordered b.symbolPlan :=
    SitePage.ordered_of_nodup (fun p => rank_of_mem_symbolPlan)
      ((hLongnames.filter _).map fun _ _ hEq => SitePage.symbol.inj hEq)
  have hTutorials : SitePage.Ordered (tutorialPlan tree) := by
    refine SitePage.ordered_of_nodup (fun p => rank_of_mem_tutorialPlan) ?_
    have hMap : tutorialPlan tree = (tree.tutorials.map Tutorial.name).map .tutorial := by
      rw [tutorialPlan, List.map_map]
      rfl
    rw [hMap]
    exact hNames.map fun _ _ hEq => SitePage.tutorial.inj hEq
  have hSingle : ∀ p : SitePage, SitePage.Ordered [p] := fun p => List.pairwise_singleton _ _
  have h₁ := SitePage.Ordered.append ⟨hSources, fun p hp => (rank_of_mem_sourcePlan hp).le⟩
    (by decide) (fun q => rank_of_mem_globalsPlan) hGlobals
  have h₂ := SitePage.Ordered.append (m := 2) h₁ (by decide) (by simp [SitePage.rank])
    (hSingle .index)
  have h₃ := SitePage.Ordered.append h₂ (by decide) (fun q => rank_of_mem_symbolPlan) hSymbols
  have h₄ := SitePage.Ordered.append h₃ (by decide) (fun q => rank_of_mem_tutorialPlan) hTutorials
  exact (SitePage.Ordered.append (m := 5) h₄ (by decide) (by simp [SitePage.rank])
    (hSingle .toc)).1

/-! ### Clashes of written pages -/

theorem pathOf_of_page? {p : SitePage} {base : String} (hLinked : (p.url? b.registry).isSome)
    (hSafe : ∀ c ∈ base.toList, FileName.IsSafe c)
    (hPage : p.page? b.registry = some (LinkRegistry.pageUrl base)) :
    b.pathOf p = b.destination.child (base ++ fileExtension) := by
  obtain ⟨url, hUrl⟩ := Option.isSome_iff_exists.1 hLinked
  rw [SitePage.page?, hUrl, Option.map_some] at hPage
  rw [pathOf, hUrl, Option.getD_some]
  exact b.outputPath_of_page (Option.some.inj hPage) hSafe

section PagesApart
variable (h : b.registry.PagesApart (LinkRegistry.Owns needsFile))
include h

/-- Pages are written to one file exactly if their addresses lead to one page. -/
theorem pathOf_eq_iff {p q : SitePage} (hLinked : (p.url? b.registry).isSome)
    (hLinked' : (q.url? b.registry).isSome) (hToc : p ≠ .toc) (hToc' : q ≠ .toc) :
    b.pathOf p = b.pathOf q ↔ p.page? b.registry = q.page? b.registry := by
  obtain ⟨base, hSafe, hPage⟩ := SitePage.exists_base h hToc hLinked
  obtain ⟨base', hSafe', hPage'⟩ := SitePage.exists_base h hToc' hLinked'
  rw [pathOf_of_page? hLinked hSafe hPage, pathOf_of_page? hLinked' hSafe' hPage', hPage, hPage',
    (b.destination.child_injective).eq_iff, String.append_left_inj, Option.some.injEq,
    LinkRegistry.pageUrl_injective.eq_iff]

/-- The table of contents is in a directory of its own. -/
theorem pathOf_ne_toc {p : SitePage} (hLinked : (p.url? b.registry).isSome) (hToc : p ≠ .toc) :
    b.pathOf p ≠ b.pathOf .toc := by
  obtain ⟨base, hSafe, hPage⟩ := SitePage.exists_base h hToc hLinked
  rw [pathOf_of_page? hLinked hSafe hPage, pathOf, SitePage.url?, Option.getD_some,
    outputPath_tocUrl]
  intro hEq
  have hLength := congrArg (fun p : Path => p.parts.length) hEq
  simp at hLength

theorem pathOf_eq_iff_clash {p q : SitePage} (hLinked : (p.url? b.registry).isSome)
    (hLinked' : (q.url? b.registry).isSome) (hOrder : p.rank ≤ q.rank)
    (hSame : p = q → p.rank = 0) (hNeeds : ∀ longname, p = .symbol longname → longname ∈ needsFile)
    (hNeeds' : ∀ longname, q = .symbol longname → longname ∈ needsFile) :
    b.pathOf p = b.pathOf q ↔ SitePage.Clash b.registry p q := by
  by_cases hToc' : q = .toc
  · subst hToc'
    have hToc : p ≠ .toc := by
      rintro rfl
      exact absurd (hSame rfl) (by decide)
    refine iff_of_false (pathOf_ne_toc h hLinked hToc) ?_
    cases p <;> exact id
  · have hToc : p ≠ .toc := by
      rintro rfl
      cases q <;> simp [SitePage.rank] at hOrder hToc'
    rw [pathOf_eq_iff h hLinked hLinked' hToc hToc',
      SitePage.page?_eq_iff_clash h hLinked hLinked' hOrder hSame hToc' hNeeds hNeeds']

/-- The files of some pages, in the order in which they are made, are different exactly if the
pages do not clash. -/
theorem nodup_map_pathOf_iff {pages : List SitePage} (hOrdered : SitePage.Ordered pages)
    (hLinked : ∀ p ∈ pages, (p.url? b.registry).isSome)
    (hNeeds : ∀ longname, .symbol longname ∈ pages → longname ∈ needsFile) :
    (pages.map b.pathOf).Nodup ↔ pages.Pairwise fun p q => ¬ SitePage.Clash b.registry p q := by
  have hIff : pages.Pairwise fun p q => b.pathOf p = b.pathOf q ↔ SitePage.Clash b.registry p q :=
    List.Pairwise.imp_of_mem (fun {p q} hp hq hBoth =>
      pathOf_eq_iff_clash h (hLinked p hp) (hLinked q hq) hBoth.1 hBoth.2
        (fun longname hEq => hNeeds longname (hEq ▸ hp))
        (fun longname hEq => hNeeds longname (hEq ▸ hq))) hOrdered
  rw [List.Nodup, List.pairwise_map]
  constructor
  · exact fun hNodup => (hIff.and hNodup).imp fun hBoth => mt hBoth.1.2 hBoth.2
  · exact fun hClash => (hIff.and hClash).imp fun hBoth => mt hBoth.1.1 hBoth.2

end PagesApart

end Build

end DocSite

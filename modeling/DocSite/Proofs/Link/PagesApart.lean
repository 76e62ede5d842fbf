import DocSite.Proofs.Link.Reserved

/-! Pages that do not fall together. Every address leads to a page whose file the registry
has issued, the pages of tutorials and the front page are nobody else's, and names that
own their pages, which are never linked to the page of another one, have each its own. -/

namespace DocSite

namespace LinkRegistry

variable {owns : String → Prop} {r r' : LinkRegistry}

/-- Whether a base name is safe and its file has been issued. -/
def IsFile (r : LinkRegistry) (base : String) : Prop :=
  (∀ c ∈ base.toList, FileName.IsSafe c) ∧ Text.lower base ∈ r.files.keys

theorem not_isFile_baseFor (r : LinkRegistry) (name : String) : ¬ r.IsFile (r.baseFor name) :=
  fun h => r.lower_baseFor_not_mem name h.2

theorem pageUrl_baseFor_ne {base : String} (h : r.IsFile base) (name : String) :
    pageUrl (r.baseFor name) ≠ pageUrl base := by
  intro hEq
  have hBase := pageUrl_injective hEq
  exact r.not_isFile_baseFor name (hBase ▸ h)

section Issue
variable {name : String}
  (hFiles : r'.files = r.files.put (Text.lower (r.baseFor name)) name)
include hFiles

theorem IsFile.of_put {base : String} (h : r.IsFile base) : r'.IsFile base := by
  refine ⟨h.1, ?_⟩
  rw [hFiles, Dict.keys_put, if_neg (r.lower_baseFor_not_mem name)]
  exact List.mem_append_left _ h.2

theorem isFile_baseFor_of_put : r'.IsFile (r.baseFor name) := by
  refine ⟨r.isSafe_baseFor name, ?_⟩
  rw [hFiles, Dict.keys_put, if_neg (r.lower_baseFor_not_mem name)]
  exact List.mem_append_right _ (List.mem_singleton_self _)

end Issue

/-- What keeps pages apart, where some names own their pages. -/
structure PagesApart (owns : String → Prop) (r : LinkRegistry) : Prop where
  index_isFile : r.IsFile indexBase
  global_url : r.urlFor globalName = some globalUrl
  tutorial : ∀ {name url}, r.tutorialUrl name = some url →
    ∃ base, r.IsFile base ∧ base ≠ indexBase ∧ url = pageUrl base
  tutorial_inj : ∀ {name other url}, r.tutorialUrl name = some url →
    r.tutorialUrl other = some url → name = other
  named : ∀ {name url}, r.urlFor name = some url →
    ∃ base, r.IsFile base ∧ base ≠ indexBase ∧ (splitFragment url).1 = pageUrl base ∧
      ∀ tutorial, r.tutorialUrl tutorial ≠ some (pageUrl base)
  own_page : ∀ {name url}, owns name → r.urlFor name = some url → '#' ∉ url.toList
  own_inj : ∀ {name other url}, owns name → owns other →
    r.urlFor name = some url → r.urlFor other = some url → name = other

/-! ### Steps -/

/-- Addresses may be added under names that own no page, on pages that others have. -/
theorem PagesApart.alias (h : PagesApart owns r) (hFiles : r'.files = r.files)
    (hTutorials : r'.tutorials = r.tutorials)
    (hGlobal : r'.urlFor globalName = some globalUrl)
    (hUrl : ∀ name url, r'.urlFor name = some url → r.urlFor name = some url ∨
      ¬ owns name ∧ ∃ other page, r.urlFor other = some page ∧
        (splitFragment url).1 = (splitFragment page).1) : PagesApart owns r' := by
  have hFile : ∀ {base}, r.IsFile base → r'.IsFile base := by
    intro base hBase
    rwa [IsFile, hFiles]
  have hTutorial : ∀ name, r'.tutorialUrl name = r.tutorialUrl name := by
    intro name
    rw [tutorialUrl, tutorialUrl, hTutorials]
  have hOwn : ∀ {name url}, owns name → r'.urlFor name = some url → r.urlFor name = some url := by
    intro name url hName hSome
    exact (hUrl name url hSome).resolve_right fun hNot => hNot.1 hName
  constructor
  case index_isFile => exact hFile h.index_isFile
  case global_url => exact hGlobal
  case tutorial =>
    intro name url hSome
    obtain ⟨base, hBase, hIndex, hEq⟩ := h.tutorial (hTutorial name ▸ hSome)
    exact ⟨base, hFile hBase, hIndex, hEq⟩
  case tutorial_inj =>
    intro name other url hName hOther
    exact h.tutorial_inj (hTutorial name ▸ hName) (hTutorial other ▸ hOther)
  case named =>
    intro name url hSome
    obtain ⟨other, page, hPage, hSplit⟩ : ∃ other page, r.urlFor other = some page ∧
        (splitFragment url).1 = (splitFragment page).1 := by
      rcases hUrl name url hSome with hOld | ⟨-, hShared⟩
      · exact ⟨name, url, hOld, rfl⟩
      · exact hShared
    obtain ⟨base, hBase, hIndex, hEq, hNo⟩ := h.named hPage
    refine ⟨base, hFile hBase, hIndex, hSplit.trans hEq, fun tutorial => ?_⟩
    rw [hTutorial]
    exact hNo tutorial
  case own_page => exact fun hName hSome => h.own_page hName (hOwn hName hSome)
  case own_inj =>
    exact fun hName hOther hSome hSome' =>
      h.own_inj hName hOther (hOwn hName hSome) (hOwn hOther hSome')

theorem PagesApart.baseFor_ne_index (h : PagesApart owns r) (name : String) :
    r.baseFor name ≠ indexBase :=
  fun hEq => r.not_isFile_baseFor name (hEq ▸ h.index_isFile)

theorem PagesApart.tutorialUrl_ne (h : PagesApart owns r) (name tutorial : String) :
    r.tutorialUrl tutorial ≠ some (pageUrl (r.baseFor name)) := by
  intro hSome
  obtain ⟨base, hBase, -, hEq⟩ := h.tutorial hSome
  exact pageUrl_baseFor_ne hBase name hEq

theorem PagesApart.page_ne (h : PagesApart owns r) {other url : String}
    (hUrl : r.urlFor other = some url) (name : String) :
    (splitFragment url).1 ≠ pageUrl (r.baseFor name) := by
  obtain ⟨base, hBase, -, hEq, -⟩ := h.named hUrl
  rw [hEq]
  exact (pageUrl_baseFor_ne hBase name).symm

/-- A new page falls together with no other one. -/
theorem PagesApart.register (h : PagesApart owns r) (name : String) :
    PagesApart owns (r.register name none).2 := by
  cases hOld : r.urlFor name with
  | some url => rwa [register_of_urlFor r hOld]
  | none =>
    have hFiles : (r.register name none).2.files =
        r.files.put (Text.lower (r.baseFor name)) name := by
      rw [register_none_of_none r hOld]
    have hTutorial : ∀ tutorial,
        (r.register name none).2.tutorialUrl tutorial = r.tutorialUrl tutorial := by
      intro tutorial
      rw [tutorialUrl, tutorialUrl, tutorials_register]
    have hSelf : (r.register name none).2.urlFor name = some (pageUrl (r.baseFor name)) := by
      rw [urlFor_register_self, register_none_of_none r hOld]
    have hOther : ∀ other, other ≠ name →
        (r.register name none).2.urlFor other = r.urlFor other :=
      fun other hOther => urlFor_register_of_ne r hOther none
    have hHash := hash_not_mem_pageUrl (r.isSafe_baseFor name)
    -- an address on the new page is the one that was registered
    have hNew : ∀ other, r.urlFor other ≠ some (pageUrl (r.baseFor name)) := by
      intro other hSome
      refine h.page_ne hSome name ?_
      rw [splitFragment_of_not_mem hHash]
    constructor
    case index_isFile => exact h.index_isFile.of_put hFiles
    case global_url => exact urlFor_register_of_some r h.global_url name none
    case tutorial =>
      intro tutorial url hSome
      obtain ⟨base, hBase, hIndex, hEq⟩ := h.tutorial (hTutorial tutorial ▸ hSome)
      exact ⟨base, hBase.of_put hFiles, hIndex, hEq⟩
    case tutorial_inj =>
      intro tutorial other url hSome hSome'
      exact h.tutorial_inj (hTutorial tutorial ▸ hSome) (hTutorial other ▸ hSome')
    case named =>
      intro other url hSome
      by_cases hName : other = name
      · rw [hName, hSelf] at hSome
        obtain rfl := Option.some.inj hSome
        refine ⟨r.baseFor name, isFile_baseFor_of_put hFiles, h.baseFor_ne_index name,
          congrArg Prod.fst (splitFragment_of_not_mem hHash), fun tutorial => ?_⟩
        rw [hTutorial]
        exact h.tutorialUrl_ne name tutorial
      · rw [hOther other hName] at hSome
        obtain ⟨base, hBase, hIndex, hEq, hNo⟩ := h.named hSome
        refine ⟨base, hBase.of_put hFiles, hIndex, hEq, fun tutorial => ?_⟩
        rw [hTutorial]
        exact hNo tutorial
    case own_page =>
      intro other url hOwns hSome
      by_cases hName : other = name
      · rw [hName, hSelf] at hSome
        exact Option.some.inj hSome ▸ hHash
      · exact h.own_page hOwns (hOther other hName ▸ hSome)
    case own_inj =>
      intro first second url hFirst hSecond hSome hSome'
      by_cases hName : first = name <;> by_cases hName' : second = name
      · rw [hName, hName']
      · rw [hName, hSelf] at hSome
        rw [hOther second hName', ← hSome] at hSome'
        exact absurd hSome' (hNew second)
      · rw [hName', hSelf] at hSome'
        rw [hOther first hName, ← hSome'] at hSome
        exact absurd hSome (hNew first)
      · exact h.own_inj hFirst hSecond (hOther first hName ▸ hSome) (hOther second hName' ▸ hSome')

/-- The page of a tutorial falls together with no other one. -/
theorem PagesApart.registerTutorial (h : PagesApart owns r) (name : String) :
    PagesApart owns (r.registerTutorial name).2 := by
  cases hOld : r.tutorialUrl name with
  | some url => rwa [registerTutorial_of_tutorialUrl r hOld]
  | none =>
    have hFiles : (r.registerTutorial name).2.files =
        r.files.put (Text.lower (r.baseFor ("tutorial-" ++ name))) ("tutorial-" ++ name) := by
      rw [registerTutorial_of_none r hOld]
    have hTutorial : ∀ other, (r.registerTutorial name).2.tutorialUrl other =
        if name = other then some (pageUrl (r.baseFor ("tutorial-" ++ name)))
        else r.tutorialUrl other := by
      intro other
      rw [registerTutorial_of_none r hOld]
      exact Dict.get?_put _ _ _ _
    have hUrl : ∀ other, (r.registerTutorial name).2.urlFor other = r.urlFor other := by
      intro other
      rw [urlFor, urlFor, urls_registerTutorial]
    have hNew := h.tutorialUrl_ne ("tutorial-" ++ name)
    constructor
    case index_isFile => exact h.index_isFile.of_put hFiles
    case global_url => exact (hUrl _).trans h.global_url
    case tutorial =>
      intro other url hSome
      rw [hTutorial] at hSome
      split_ifs at hSome with hName
      · exact ⟨_, isFile_baseFor_of_put hFiles, h.baseFor_ne_index _,
          (Option.some.inj hSome).symm⟩
      · obtain ⟨base, hBase, hIndex, hEq⟩ := h.tutorial hSome
        exact ⟨base, hBase.of_put hFiles, hIndex, hEq⟩
    case tutorial_inj =>
      intro first second url hSome hSome'
      rw [hTutorial] at hSome hSome'
      split_ifs at hSome hSome' with hName hName' hName'
      · rw [← hName, ← hName']
      · exact absurd (hSome'.trans hSome.symm) (hNew second)
      · exact absurd (hSome.trans hSome'.symm) (hNew first)
      · exact h.tutorial_inj hSome hSome'
    case named =>
      intro other url hSome
      rw [hUrl] at hSome
      obtain ⟨base, hBase, hIndex, hEq, hNo⟩ := h.named hSome
      refine ⟨base, hBase.of_put hFiles, hIndex, hEq, fun tutorial hPage => ?_⟩
      rw [hTutorial] at hPage
      split_ifs at hPage with hName
      · exact pageUrl_baseFor_ne hBase _ (Option.some.inj hPage)
      · exact hNo tutorial hPage
    case own_page => exact fun hOwns hSome => h.own_page hOwns (hUrl _ ▸ hSome)
    case own_inj =>
      exact fun hFirst hSecond hSome hSome' =>
        h.own_inj hFirst hSecond (hUrl _ ▸ hSome) (hUrl _ ▸ hSome')

/-- The link of a symbol adds a page for its owner, if that is new, and no other page. -/
theorem PagesApart.links {owner longname page fragment : String} (h : PagesApart owns r)
    (hLinks : Links r r' owner longname page fragment) (hNone : r.urlFor longname = none)
    (hOwns : owns longname → owner = longname) : PagesApart owns r' := by
  refine (h.register owner).alias hLinks.files_eq ?_ (hLinks.urlFor_of_some hNone h.global_url)
    (hLinks.urlFor_cases hOwns)
  rw [hLinks.tutorials_eq, tutorials_register]

/-- The names that own their pages when some longnames need files. -/
def Owns (needsFile : List String) (name : String) : Prop := name ∈ needsFile ∨ name = globalName

theorem PagesApart.createLinkFor {needsFile : List String} (h : PagesApart (Owns needsFile) r)
    (s : Symbol) (longname : String) :
    PagesApart (Owns needsFile) (r.createLinkFor s longname (needsFile.contains longname)).2 := by
  cases hUrl : r.urlFor longname with
  | some url => rwa [createLinkFor_of_urlFor r hUrl]
  | none =>
    obtain ⟨_, _, hLinks, -, -⟩ := r.createLinkFor_of_none s (needsFile.contains longname) hUrl
    refine h.links hLinks hUrl ?_
    rintro (hNeeds | rfl)
    · simp [Placement.ofSymbol, Placement.hasPage, hNeeds]
    · simp [h.global_url] at hUrl

theorem PagesApart.issueId (h : PagesApart owns r) (url candidate : String) :
    PagesApart owns (r.issueId url candidate).2 :=
  h.alias rfl rfl h.global_url fun _ _ hSome => .inl hSome

theorem pagesApart_fresh (owns : String → Prop) : PagesApart owns fresh := by
  have hTutorial : ∀ name, fresh.tutorialUrl name = none := fun _ => rfl
  constructor
  case index_isFile => exact ⟨isSafe_indexBase, by decide⟩
  case global_url => decide
  case tutorial => simp [hTutorial]
  case tutorial_inj => simp [hTutorial]
  case named =>
    intro name url hSome
    rw [(eq_global_of_urlFor_fresh hSome).2, ← pageUrl_globalName]
    exact ⟨globalName, ⟨isSafe_globalName, by decide⟩, by decide,
      congrArg Prod.fst (splitFragment_of_not_mem (hash_not_mem_pageUrl isSafe_globalName)),
      by simp [hTutorial]⟩
  case own_page =>
    intro name url _ hSome
    rw [(eq_global_of_urlFor_fresh hSome).2]
    exact hash_not_mem_globalUrl
  case own_inj =>
    intro name other url _ _ hSome hSome'
    rw [(eq_global_of_urlFor_fresh hSome).1, (eq_global_of_urlFor_fresh hSome').1]

theorem pagesApart_withTutorials (owns : String → Prop) (names : List String) :
    PagesApart owns (withTutorials names) := by
  induction names using List.reverseRecOn with
  | nil => exact pagesApart_fresh owns
  | append_singleton names name ih =>
    rw [withTutorials, List.foldl_append]
    exact PagesApart.registerTutorial ih name

end LinkRegistry

end DocSite

import DocSite.Proofs.Link.Reserved

/-! The names that pages were issued for. A registry keeps with every file the name that
asked for it, and gives the file to no other name, so a page tells its name. A link is
either on the page of its owner, or the owner is the longname itself, and then the page
was issued for it. -/

namespace DocSite

namespace LinkRegistry

variable {r r' : LinkRegistry}

/-- Whether an address is that of the page whose file was issued for a name. -/
def IssuedFor (r : LinkRegistry) (page name : String) : Prop :=
  ∃ base, (∀ c ∈ base.toList, FileName.IsSafe c) ∧ page = pageUrl base ∧
    r.files.get? (Text.lower base) = some name

theorem IssuedFor.hash_not_mem {page name : String} (h : r.IssuedFor page name) :
    '#' ∉ page.toList := by
  obtain ⟨base, hSafe, rfl, -⟩ := h
  exact hash_not_mem_pageUrl hSafe

/-- No page was issued for two names. -/
theorem IssuedFor.inj {page name other : String} (h : r.IssuedFor page name)
    (h' : r.IssuedFor page other) : name = other := by
  obtain ⟨base, -, rfl, hName⟩ := h
  obtain ⟨base', -, hPage, hOther⟩ := h'
  obtain rfl := pageUrl_injective hPage
  exact Option.some.inj (hName.symm.trans hOther)

/-- The page of globals belongs to the name of globals from the start. -/
theorem issuedFor_fresh : fresh.IssuedFor globalUrl globalName :=
  ⟨globalName, isSafe_globalName, pageUrl_globalName.symm, by decide⟩

/-! ### Files that stay -/

/-- Whether every file that was issued is still that of the same name. -/
def KeepsFiles (r r' : LinkRegistry) : Prop :=
  ∀ key name, r.files.get? key = some name → r'.files.get? key = some name

theorem KeepsFiles.of_eq (h : r'.files = r.files) : r.KeepsFiles r' := by
  intro key name hFile
  rwa [h]

theorem KeepsFiles.trans {r'' : LinkRegistry} (h : r.KeepsFiles r') (h' : r'.KeepsFiles r'') :
    r.KeepsFiles r'' := fun key name hFile => h' key name (h key name hFile)

theorem keepsFiles_put {base name : String} (hNew : Text.lower base ∉ r.files.keys)
    (h : r'.files = r.files.put (Text.lower base) name) : r.KeepsFiles r' := by
  intro key other hFile
  rw [h, Dict.get?_put_ne ?_, hFile]
  rintro rfl
  exact hNew ((Dict.has_iff_mem_keys _ _).1 (by simp [Dict.has, hFile]))

theorem keepsFiles_register (r : LinkRegistry) (name : String) (url? : Option String) :
    r.KeepsFiles (r.register name url?).2 := by
  obtain ⟨_, _, hEq⟩ | ⟨_, _, _, hEq⟩ | ⟨_, _, hEq⟩ := r.register_cases name url?
  · exact .of_eq (by rw [hEq])
  · exact .of_eq (by rw [hEq])
  · exact keepsFiles_put (r.lower_baseFor_not_mem name) (by rw [hEq])

theorem keepsFiles_registerTutorial (r : LinkRegistry) (name : String) :
    r.KeepsFiles (r.registerTutorial name).2 := by
  cases hOld : r.tutorialUrl name with
  | some url =>
    rw [registerTutorial_of_tutorialUrl r hOld]
    exact .of_eq rfl
  | none =>
    exact keepsFiles_put (r.lower_baseFor_not_mem ("tutorial-" ++ name))
      (by rw [registerTutorial_of_none r hOld])

theorem Links.keepsFiles {owner longname page fragment : String}
    (h : Links r r' owner longname page fragment) : r.KeepsFiles r' :=
  (r.keepsFiles_register owner none).trans (.of_eq h.files_eq)

theorem IssuedFor.of_keep {page name : String} (h : r.IssuedFor page name)
    (hKeep : r.KeepsFiles r') : r'.IssuedFor page name := by
  obtain ⟨base, hSafe, hPage, hFile⟩ := h
  exact ⟨base, hSafe, hPage, hKeep _ _ hFile⟩

theorem keepsFiles_withTutorials (names : List String) :
    fresh.KeepsFiles (withTutorials names) := by
  induction names using List.reverseRecOn with
  | nil => exact .of_eq rfl
  | append_singleton names name ih =>
    rw [withTutorials, List.foldl_append]
    exact KeepsFiles.trans ih (keepsFiles_registerTutorial _ name)

/-! ### New pages -/

/-- The page that is registered for a new name is issued for it. -/
theorem issuedFor_register {name : String} (h : r.urlFor name = none) :
    (r.register name none).2.IssuedFor (r.register name none).1 name := by
  rw [register_none_of_none r h]
  exact ⟨r.baseFor name, r.isSafe_baseFor name, rfl, Dict.get?_put_self _ _ _⟩

/-- A longname that is its own owner gets a page that is issued for it. -/
theorem Links.issuedFor {longname page fragment : String}
    (h : Links r r' longname longname page fragment) (hNone : r.urlFor longname = none) :
    r'.urlFor longname = some page ∧ r'.IssuedFor page longname := by
  refine ⟨h.urlFor_owner, ?_⟩
  rw [h.page_eq]
  exact (issuedFor_register hNone).of_keep (.of_eq h.files_eq)

/-- Where a longname was linked: on the page of its owner, and on one of its own if it is
its own owner. -/
structure PlacedAt (r : LinkRegistry) (owner longname : String) : Prop where
  shared : ∃ page, r.pageOf? longname = some page ∧ r.pageOf? owner = some page
  own : owner = longname → ∃ url, r.urlFor longname = some url ∧ r.IssuedFor url longname

theorem pageOf?_of_urlFor {name url : String} (h : r.urlFor name = some url) :
    r.pageOf? name = some (splitFragment url).1 := by
  rw [pageOf?, h, Option.map_some]

/-- A longname without an address is placed by its link. -/
theorem Links.placedAt {owner longname page fragment : String}
    (h : Links r r' owner longname page fragment) (hNone : r.urlFor longname = none) :
    r'.PlacedAt owner longname := by
  constructor
  case shared =>
    refine ⟨(splitFragment page).1, ?_, pageOf?_of_urlFor h.urlFor_owner⟩
    rw [pageOf?_of_urlFor h.urlFor_longname, h.page_longname h.urlFor_longname]
  case own =>
    rintro rfl
    exact ⟨page, h.issuedFor hNone⟩

/-- A place stays while the registry grows. -/
theorem PlacedAt.of_keep {owner longname : String} (h : r.PlacedAt owner longname)
    (hUrls : ∀ {name url}, r.urlFor name = some url → r'.urlFor name = some url)
    (hKeep : r.KeepsFiles r') : r'.PlacedAt owner longname := by
  have hPage : ∀ {name page}, r.pageOf? name = some page → r'.pageOf? name = some page := by
    intro name page hSome
    obtain ⟨url, hUrl, rfl⟩ := Option.map_eq_some_iff.1 hSome
    exact pageOf?_of_urlFor (hUrls hUrl)
  obtain ⟨page, hLongname, hOwner⟩ := h.shared
  refine ⟨⟨page, hPage hLongname, hPage hOwner⟩, fun hOwn => ?_⟩
  obtain ⟨url, hUrl, hIssued⟩ := h.own hOwn
  exact ⟨url, hUrls hUrl, hIssued.of_keep hKeep⟩

/-! ### Whose pages addresses are on -/

variable {owns : String → Prop}

/-- What pages tell, where some names own their pages: every address is on a page that was
issued for some name and is the address of that name, and the address of a name that owns
its page was issued for it. -/
structure PagesIssued (owns : String → Prop) (r : LinkRegistry) : Prop where
  named : ∀ {name url}, r.urlFor name = some url →
    ∃ owner, r.urlFor owner = some (splitFragment url).1 ∧
      r.IssuedFor (splitFragment url).1 owner
  own : ∀ {name url}, owns name → r.urlFor name = some url → r.IssuedFor url name

/-- Addresses may be added under names that own no page, on pages that others have. -/
theorem PagesIssued.alias (h : PagesIssued owns r) (hFiles : r'.files = r.files)
    (hKeep : ∀ name url, r.urlFor name = some url → r'.urlFor name = some url)
    (hUrl : ∀ name url, r'.urlFor name = some url → r.urlFor name = some url ∨
      ¬ owns name ∧ ∃ other page, r.urlFor other = some page ∧
        (splitFragment url).1 = (splitFragment page).1) : PagesIssued owns r' := by
  constructor
  case named =>
    intro name url hSome
    obtain ⟨other, page, hPage, hSplit⟩ : ∃ other page, r.urlFor other = some page ∧
        (splitFragment url).1 = (splitFragment page).1 := by
      rcases hUrl name url hSome with hOld | ⟨-, hShared⟩
      · exact ⟨name, url, hOld, rfl⟩
      · exact hShared
    obtain ⟨owner, hOwner, hIssued⟩ := h.named hPage
    rw [hSplit]
    exact ⟨owner, hKeep owner _ hOwner, hIssued.of_keep (.of_eq hFiles)⟩
  case own =>
    intro name url hOwns hSome
    have hOld := (hUrl name url hSome).resolve_right fun hNot => hNot.1 hOwns
    exact (h.own hOwns hOld).of_keep (.of_eq hFiles)

/-- A new page is issued for the name that it is registered under. -/
theorem PagesIssued.register (h : PagesIssued owns r) (name : String) :
    PagesIssued owns (r.register name none).2 := by
  cases hOld : r.urlFor name with
  | some url => rwa [register_of_urlFor r hOld]
  | none =>
    have hNew := issuedFor_register hOld
    have hSelf := r.urlFor_register_self name none
    have hKeep := r.keepsFiles_register name none
    constructor
    case named =>
      intro other url hSome
      by_cases hName : other = name
      · rw [hName, hSelf] at hSome
        obtain rfl := Option.some.inj hSome
        rw [splitFragment_of_not_mem hNew.hash_not_mem]
        exact ⟨name, hSelf, hNew⟩
      · rw [urlFor_register_of_ne r hName] at hSome
        obtain ⟨owner, hOwner, hIssued⟩ := h.named hSome
        exact ⟨owner, urlFor_register_of_some r hOwner name none, hIssued.of_keep hKeep⟩
    case own =>
      intro other url hOwns hSome
      by_cases hName : other = name
      · rw [hName, hSelf] at hSome
        rwa [hName, ← Option.some.inj hSome]
      · rw [urlFor_register_of_ne r hName] at hSome
        exact (h.own hOwns hSome).of_keep hKeep

/-- The link of a symbol adds no page but that of its owner. -/
theorem PagesIssued.links {owner longname page fragment : String} (h : PagesIssued owns r)
    (hLinks : Links r r' owner longname page fragment) (hNone : r.urlFor longname = none)
    (hOwns : owns longname → owner = longname) : PagesIssued owns r' := by
  refine (h.register owner).alias hLinks.files_eq (fun name url hSome => ?_)
    (hLinks.urlFor_cases hOwns)
  by_cases hOwner : name = owner
  · rw [hOwner, urlFor_register_self, ← hLinks.page_eq] at hSome
    rw [hOwner, hLinks.urlFor_owner, hSome]
  · rw [urlFor_register_of_ne r hOwner] at hSome
    exact hLinks.urlFor_of_some hNone hSome

/-- A name that owns its page has a page exactly if this was issued for it. -/
theorem PagesIssued.pageOf?_eq_iff {name other page : String} (h : PagesIssued owns r)
    (hOwns : owns other) (hLinked : (r.urlFor other).isSome) (hName : r.urlFor name = some page)
    (hFor : r.IssuedFor page name) : r.pageOf? other = some page ↔ name = other := by
  constructor
  · intro hPage
    obtain ⟨url, hUrl⟩ := Option.isSome_iff_exists.1 hLinked
    have hOther := h.own hOwns hUrl
    rw [pageOf?_of_urlFor hUrl, splitFragment_of_not_mem hOther.hash_not_mem] at hPage
    obtain rfl := Option.some.inj hPage
    exact hFor.inj hOther
  · rintro rfl
    rw [pageOf?_of_urlFor hName, splitFragment_of_not_mem hFor.hash_not_mem]

theorem pagesIssued_withTutorials (owns : String → Prop) (names : List String) :
    PagesIssued owns (withTutorials names) := by
  obtain ⟨hUrls, -⟩ := urls_fragments_withTutorials names
  have hGlobal := issuedFor_fresh.of_keep (keepsFiles_withTutorials names)
  have hSelf : (withTutorials names).urlFor globalName = some globalUrl := by
    rw [urlFor, hUrls]
    decide
  constructor
  case named =>
    intro name url hSome
    rw [urlFor, hUrls] at hSome
    rw [(eq_global_of_urlFor_fresh hSome).2, splitFragment_of_not_mem hash_not_mem_globalUrl]
    exact ⟨globalName, hSelf, hGlobal⟩
  case own =>
    intro name url _ hSome
    rw [urlFor, hUrls] at hSome
    obtain ⟨rfl, rfl⟩ := eq_global_of_urlFor_fresh hSome
    exact hGlobal

end LinkRegistry

end DocSite

import DocSite.Proofs.Link.FreeName

/-! What the operations of a registry leave alone and what they add. Each table of a
registry is written by few operations, and always under a key that was not there, so
an address once registered stays. The link of a symbol is taken apart into its
writes: the page of its owner, the fragment on that page, and its own address. -/

namespace DocSite

namespace LinkRegistry

variable (r : LinkRegistry)

/-! ### Files -/

/-- The base name of the file that a name would get next. -/
def baseFor (name : String) : String := freeName r.files.keys (FileName.wanted name)

/-- The address of the page in the file with a base name. -/
def pageUrl (base : String) : String := Text.percentEncode (base ++ fileExtension)

theorem lower_baseFor_not_mem (name : String) : Text.lower (r.baseFor name) ∉ r.files.keys :=
  lower_freeName_not_mem _ _

theorem issueFile_eq (name : String) :
    r.issueFile name = (r.baseFor name ++ fileExtension,
      { r with files := r.files.put (Text.lower (r.baseFor name)) name }) := rfl

theorem registerTutorial_of_none {name : String} (h : r.tutorialUrl name = none) :
    r.registerTutorial name = (pageUrl (r.baseFor ("tutorial-" ++ name)),
      { r with
        files := r.files.put (Text.lower (r.baseFor ("tutorial-" ++ name))) ("tutorial-" ++ name)
        tutorials := r.tutorials.put name (pageUrl (r.baseFor ("tutorial-" ++ name))) }) := by
  simp [registerTutorial, h, issueFile_eq, pageUrl]

theorem tutorialUrl_registerTutorial_self (name : String) :
    ((r.registerTutorial name).2.tutorialUrl name).isSome := by
  cases hUrl : r.tutorialUrl name with
  | some url => rw [registerTutorial_of_tutorialUrl r hUrl, hUrl, Option.isSome_some]
  | none =>
    rw [registerTutorial_of_none r hUrl, tutorialUrl, Dict.get?_put_self, Option.isSome_some]

/-! ### Names -/

theorem register_none_of_none {name : String} (h : r.urlFor name = none) :
    r.register name none = (pageUrl (r.baseFor name),
      { r with
        files := r.files.put (Text.lower (r.baseFor name)) name
        urls := r.urls.put name (pageUrl (r.baseFor name)) }) := by
  simp [register, h, issueFile_eq, pageUrl]

theorem register_some_of_none {name : String} (h : r.urlFor name = none) (url : String) :
    r.register name (some url) = (url, { r with urls := r.urls.put name url }) := by
  simp [register, h]

/-- A registration writes an address under a new name, and a file if it was given none. -/
theorem register_cases (name : String) (url? : Option String) :
    (∃ url, r.urlFor name = some url ∧ r.register name url? = (url, r)) ∨
    (∃ url, r.urlFor name = none ∧ url? = some url ∧
      r.register name url? = (url, { r with urls := r.urls.put name url })) ∨
    (r.urlFor name = none ∧ url? = none ∧
      r.register name url? = (pageUrl (r.baseFor name),
        { r with
          files := r.files.put (Text.lower (r.baseFor name)) name
          urls := r.urls.put name (pageUrl (r.baseFor name)) })) := by
  cases h : r.urlFor name with
  | some url => exact .inl ⟨url, rfl, register_of_urlFor r h url?⟩
  | none =>
    cases url? with
    | some url => exact .inr (.inl ⟨url, rfl, rfl, register_some_of_none r h url⟩)
    | none => exact .inr (.inr ⟨rfl, rfl, register_none_of_none r h⟩)

@[simp] theorem ids_register (name : String) (url? : Option String) :
    (r.register name url?).2.ids = r.ids := by
  obtain ⟨_, _, hEq⟩ | ⟨_, _, _, hEq⟩ | ⟨_, _, hEq⟩ := r.register_cases name url? <;> rw [hEq]

@[simp] theorem fragmentFor_register (name longname : String) (url? : Option String) :
    (r.register name url?).2.fragmentFor longname = r.fragmentFor longname := by
  obtain ⟨_, _, hEq⟩ | ⟨_, _, _, hEq⟩ | ⟨_, _, hEq⟩ := r.register_cases name url? <;>
    rw [hEq] <;> rfl

@[simp] theorem tutorials_register (name : String) (url? : Option String) :
    (r.register name url?).2.tutorials = r.tutorials := by
  obtain ⟨_, _, hEq⟩ | ⟨_, _, _, hEq⟩ | ⟨_, _, hEq⟩ := r.register_cases name url? <;> rw [hEq]

@[simp] theorem files_register_some (name url : String) :
    (r.register name (some url)).2.files = r.files := by
  obtain ⟨_, _, hEq⟩ | ⟨_, _, _, hEq⟩ | ⟨_, h, _⟩ := r.register_cases name (some url)
  · rw [hEq]
  · rw [hEq]
  · exact absurd h (by simp)

/-- A name is registered under the address that the registration answers with. -/
theorem urlFor_register_self (name : String) (url? : Option String) :
    (r.register name url?).2.urlFor name = some (r.register name url?).1 := by
  obtain ⟨_, hUrl, hEq⟩ | ⟨_, _, _, hEq⟩ | ⟨_, _, hEq⟩ := r.register_cases name url? <;> rw [hEq]
  · exact hUrl
  · exact Dict.get?_put_self _ _ _
  · exact Dict.get?_put_self _ _ _

theorem urlFor_register_of_ne {name other : String} (h : other ≠ name) (url? : Option String) :
    (r.register name url?).2.urlFor other = r.urlFor other := by
  obtain ⟨_, _, hEq⟩ | ⟨_, _, _, hEq⟩ | ⟨_, _, hEq⟩ := r.register_cases name url? <;> rw [hEq]
  · exact Dict.get?_put_ne h.symm _ _
  · exact Dict.get?_put_ne h.symm _ _

/-- An address once registered stays. -/
theorem urlFor_register_of_some {other url : String} (h : r.urlFor other = some url)
    (name : String) (url? : Option String) :
    (r.register name url?).2.urlFor other = some url := by
  by_cases hEq : other = name
  · subst hEq
    rw [register_of_urlFor r h]
    exact h
  · rw [urlFor_register_of_ne r hEq, h]

/-! ### Fragments -/

/-- The keys of the fragments given out on a page. -/
def issuedOn (page : String) : List String := ((r.ids.get? page).getD []).keys

theorem issuedOn_register (page name : String) (url? : Option String) :
    (r.register name url?).2.issuedOn page = r.issuedOn page := by
  simp [issuedOn]

/-- A fragment gets a key that is new on its page. -/
theorem lower_issueId_not_mem (url candidate : String) :
    Text.lower (r.issueId url candidate).1 ∉ r.issuedOn (splitFragment url).1 :=
  lower_freeName_not_mem _ _

/-- A fragment is written on its page only. -/
theorem issuedOn_issueId (url candidate page : String) :
    (r.issueId url candidate).2.issuedOn page =
      if page = (splitFragment url).1 then
        r.issuedOn page ++ [Text.lower (r.issueId url candidate).1]
      else r.issuedOn page := by
  have hNew := r.lower_issueId_not_mem url candidate
  simp only [issueId, issuedOn, Dict.get?_put] at hNew ⊢
  split_ifs with h h' h'
  · subst h
    rw [Option.getD_some, Dict.keys_put, if_neg hNew]
  · exact absurd h.symm h'
  · exact absurd h'.symm h
  · rfl

/-- A fragment has no blanks. -/
theorem not_isBlank_of_mem_issueId (url candidate : String) :
    ∀ c ∈ (r.issueId url candidate).1.toList, Text.isBlank c = false := by
  obtain ⟨k, -, hEq, -⟩ := freeName_eq_underscored
    (r.issuedOn (splitFragment url).1) (Text.withoutBlanks candidate)
  have hId : (r.issueId url candidate).1 = underscored (Text.withoutBlanks candidate) k := hEq
  have hUnderscore : Text.isBlank '_' = false := by decide
  intro c hc
  rw [hId, toList_underscored, List.mem_append] at hc
  rcases hc with hc | hc
  · simp only [Text.withoutBlanks, String.toList_ofList, List.mem_filter] at hc
    simpa using hc.2
  · rw [List.eq_of_mem_replicate hc]
    exact hUnderscore

theorem urlFor_issueId (url candidate name : String) :
    (r.issueId url candidate).2.urlFor name = r.urlFor name := rfl

section Fragment
variable (placement : Placement) (page : String) (s : Symbol)

@[simp] theorem urlFor_issueFragment (name : String) :
    (r.issueFragment placement page s).2.urlFor name = r.urlFor name := by
  unfold issueFragment
  split <;> rfl

@[simp] theorem fragmentFor_issueFragment (longname : String) :
    (r.issueFragment placement page s).2.fragmentFor longname = r.fragmentFor longname := by
  unfold issueFragment
  split <;> rfl

@[simp] theorem files_issueFragment : (r.issueFragment placement page s).2.files = r.files := by
  unfold issueFragment
  split <;> rfl

@[simp] theorem tutorials_issueFragment :
    (r.issueFragment placement page s).2.tutorials = r.tutorials := by
  unfold issueFragment
  split <;> rfl

theorem issuedOn_subset_issueId (url candidate other : String) :
    r.issuedOn other ⊆ (r.issueId url candidate).2.issuedOn other := by
  rw [issuedOn_issueId]
  split
  · exact List.subset_append_left _ _
  · exact List.Subset.refl _

theorem issuedOn_subset_issueFragment (other : String) :
    r.issuedOn other ⊆ (r.issueFragment placement page s).2.issuedOn other := by
  unfold issueFragment
  split
  · exact r.issuedOn_subset_issueId _ _ _
  · exact List.Subset.refl _

/-- A fragment that is not empty is new on its page, and is given out there. -/
theorem issueFragment_new (h : (r.issueFragment placement page s).1 ≠ "") :
    Text.lower (r.issueFragment placement page s).1 ∉ r.issuedOn (splitFragment page).1 ∧
    Text.lower (r.issueFragment placement page s).1 ∈
      (r.issueFragment placement page s).2.issuedOn (splitFragment page).1 := by
  unfold issueFragment at h ⊢
  split at h
  next hWants =>
    rw [if_pos hWants, issuedOn_issueId, if_pos rfl]
    exact ⟨r.lower_issueId_not_mem _ _, by simp⟩
  next => exact absurd rfl h

theorem not_isBlank_of_mem_issueFragment :
    ∀ c ∈ (r.issueFragment placement page s).1.toList, Text.isBlank c = false := by
  unfold issueFragment
  split
  · exact r.not_isBlank_of_mem_issueId _ _
  · simp

theorem issueFragment_of_not_wantsFragment (h : placement.wantsFragment = false) :
    (r.issueFragment placement page s).1 = "" := by
  simp [issueFragment, h]

end Fragment

/-! ### Links of symbols -/

/-- What it takes to link a longname that has no address: its owner has the address
`page`, and the longname gets that, with `fragment` behind it unless this is empty.
A longname that owns itself keeps the address of its page. -/
structure Links (r r' : LinkRegistry) (owner longname page fragment : String) : Prop where
  page_eq : page = (r.register owner none).1
  urlFor_owner : r'.urlFor owner = some page
  urlFor_longname : r'.urlFor longname = some
    (if owner = longname ∨ fragment = "" then page
      else page ++ "#" ++ Text.percentEncode fragment)
  urlFor_of_ne : ∀ name, name ≠ owner → name ≠ longname → r'.urlFor name = r.urlFor name
  fragmentFor_longname : r'.fragmentFor longname =
    if fragment = "" then r.fragmentFor longname else some fragment
  fragmentFor_of_ne : ∀ name, name ≠ longname → r'.fragmentFor name = r.fragmentFor name
  issuedOn_subset : ∀ page, r.issuedOn page ⊆ r'.issuedOn page
  fragment_new : fragment ≠ "" → Text.lower fragment ∉ r.issuedOn (splitFragment page).1
  fragment_issued : fragment ≠ "" → Text.lower fragment ∈ r'.issuedOn (splitFragment page).1
  not_isBlank : ∀ c ∈ fragment.toList, Text.isBlank c = false
  files_eq : r'.files = (r.register owner none).2.files
  tutorials_eq : r'.tutorials = r.tutorials

/-- The registry in which a fragment that is not empty is reserved for a longname. -/
def reserve (longname fragment : String) : LinkRegistry :=
  if fragment = "" then r else { r with fragments := r.fragments.put longname fragment }

section Reserve
variable (longname fragment : String)

@[simp] theorem urlFor_reserve (name : String) :
    (r.reserve longname fragment).urlFor name = r.urlFor name := by
  unfold reserve
  split <;> rfl

@[simp] theorem issuedOn_reserve (page : String) :
    (r.reserve longname fragment).issuedOn page = r.issuedOn page := by
  unfold reserve
  split <;> rfl

@[simp] theorem files_reserve : (r.reserve longname fragment).files = r.files := by
  unfold reserve
  split <;> rfl

@[simp] theorem tutorials_reserve : (r.reserve longname fragment).tutorials = r.tutorials := by
  unfold reserve
  split <;> rfl

theorem fragmentFor_reserve (name : String) :
    (r.reserve longname fragment).fragmentFor name =
      if fragment ≠ "" ∧ name = longname then some fragment else r.fragmentFor name := by
  by_cases h : fragment = ""
  · simp [reserve, h]
  · simp [reserve, h, fragmentFor, Dict.get?_put, eq_comm]

end Reserve

/-- The writes of a link, one after the other: the page of the owner, the fragment on
it, the reservation, and the address of the longname. -/
theorem links_register {placement : Placement} {s : Symbol} {longname page fragment : String}
    {r₁ r₂ : LinkRegistry} (hNone : r.urlFor longname = none)
    (hPage : r.register placement.owner none = (page, r₁))
    (hFragment : r₁.issueFragment placement page s = (fragment, r₂)) :
    Links r ((r₂.reserve longname fragment).register longname
      (some (if fragment = "" then page else page ++ "#" ++ Text.percentEncode fragment))).2
      placement.owner longname page fragment := by
  have hUrl₁ : ∀ name, name ≠ placement.owner → r₁.urlFor name = r.urlFor name := by
    intro name hName
    rw [← r.urlFor_register_of_ne hName none, hPage]
  have hUrl₂ : ∀ name, (r₂.reserve longname fragment).urlFor name = r₁.urlFor name := by
    intro name
    rw [urlFor_reserve, ← r₁.urlFor_issueFragment placement page s, hFragment]
  have hFragment₂ : ∀ name, r₂.fragmentFor name = r.fragmentFor name := by
    intro name
    rw [← r.fragmentFor_register placement.owner name none, hPage,
      ← r₁.fragmentFor_issueFragment placement page s, hFragment]
  have hIssued₁ : ∀ other, r₁.issuedOn other = r.issuedOn other := by
    intro other
    rw [← r.issuedOn_register other placement.owner none, hPage]
  have hNew := r₁.issueFragment_new placement page s
  rw [hFragment, hIssued₁] at hNew
  have hOwner : r₁.urlFor placement.owner = some page := by
    have := r.urlFor_register_self placement.owner none
    rwa [hPage] at this
  constructor
  case page_eq => rw [hPage]
  case urlFor_owner => exact urlFor_register_of_some _ ((hUrl₂ _).trans hOwner) _ _
  case urlFor_longname =>
    by_cases hSelf : placement.owner = longname
    · rw [hSelf] at hOwner
      rw [urlFor_register_of_some _ ((hUrl₂ _).trans hOwner)]
      simp [hSelf]
    · rw [urlFor_register_self,
        register_some_of_none _ (by rw [hUrl₂, hUrl₁ _ (Ne.symm hSelf), hNone])]
      simp [hSelf]
  case urlFor_of_ne =>
    intro name hName hLongname
    rw [urlFor_register_of_ne _ hLongname, hUrl₂, hUrl₁ _ hName]
  case fragmentFor_longname =>
    rw [fragmentFor_register, fragmentFor_reserve, hFragment₂]
    split_ifs <;> simp_all
  case fragmentFor_of_ne =>
    intro name hName
    rw [fragmentFor_register, fragmentFor_reserve, if_neg (fun h => hName h.2), hFragment₂]
  case issuedOn_subset =>
    intro other
    have hSubset := r₁.issuedOn_subset_issueFragment placement page s other
    rw [hFragment, hIssued₁] at hSubset
    rwa [issuedOn_register, issuedOn_reserve]
  case fragment_new => exact fun h => (hNew h).1
  case fragment_issued =>
    intro h
    rw [issuedOn_register, issuedOn_reserve]
    exact (hNew h).2
  case not_isBlank =>
    have := r₁.not_isBlank_of_mem_issueFragment placement page s
    rwa [hFragment] at this
  case files_eq =>
    rw [files_register_some, files_reserve, hPage, ← r₁.files_issueFragment placement page s,
      hFragment]
  case tutorials_eq =>
    rw [tutorials_register, tutorials_reserve, ← r.tutorials_register placement.owner none, hPage,
      ← r₁.tutorials_issueFragment placement page s, hFragment]

/-- The link of a longname without an address, as its writes one after the other. -/
theorem createLinkFor_eq {longname page fragment : String} {s : Symbol} {needsFile : Bool}
    {r₁ r₂ : LinkRegistry} (h : r.urlFor longname = none)
    (hPage : r.register (Placement.ofSymbol s longname needsFile).owner none = (page, r₁))
    (hFragment : r₁.issueFragment (Placement.ofSymbol s longname needsFile) page s =
      (fragment, r₂)) :
    r.createLinkFor s longname needsFile = (r₂.reserve longname fragment).register longname
      (some (if fragment = "" then page else page ++ "#" ++ Text.percentEncode fragment)) := by
  simp only [createLinkFor, h, hPage, hFragment, reserve, beq_iff_eq]
  split <;> rfl

theorem createLinkFor_of_none {longname : String} (s : Symbol) (needsFile : Bool)
    (h : r.urlFor longname = none) :
    ∃ page fragment, Links r (r.createLinkFor s longname needsFile).2
        (Placement.ofSymbol s longname needsFile).owner longname page fragment ∧
      ((Placement.ofSymbol s longname needsFile).wantsFragment = false → fragment = "") ∧
      (r.createLinkFor s longname needsFile).2.urlFor longname =
        some (r.createLinkFor s longname needsFile).1 := by
  rcases hPage : r.register (Placement.ofSymbol s longname needsFile).owner none with ⟨page, r₁⟩
  rcases hFragment : r₁.issueFragment (Placement.ofSymbol s longname needsFile) page s with
    ⟨fragment, r₂⟩
  have hLink := r.createLinkFor_eq h hPage hFragment
  refine ⟨page, fragment, ?_, ?_, ?_⟩
  · rw [hLink]
    exact r.links_register h hPage hFragment
  · intro hWants
    have := r₁.issueFragment_of_not_wantsFragment _ page s hWants
    rwa [hFragment] at this
  · rw [hLink]
    exact urlFor_register_self _ _ _

theorem tutorials_createLinkFor (s : Symbol) (longname : String)
    (needsFile : Bool) : (r.createLinkFor s longname needsFile).2.tutorials = r.tutorials := by
  cases hUrl : r.urlFor longname with
  | some url => rw [createLinkFor_of_urlFor r hUrl]
  | none =>
    obtain ⟨_, _, hLinks, -⟩ := r.createLinkFor_of_none s needsFile hUrl
    exact hLinks.tutorials_eq

end LinkRegistry

end DocSite

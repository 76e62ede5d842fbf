import DocSite.Proofs.Link.Address
import Mathlib.Data.List.Induction

/-! Places on pages, and the fragments that a registry keeps for longnames. A place is
a page together with a fragment in lower case, so two fragments of one page that
differ by case only are one place. Linking a symbol reserves at most one place, which
nobody had before; addresses and reservations that are there stay. -/

namespace DocSite

/-- The place of a fragment on the page of an address. -/
def placeOf (url fragment : String) : String × String :=
  ((splitFragment url).1, Text.lower fragment)

namespace LinkRegistry

variable {r r' : LinkRegistry}

/-- Whether a place has been given out. -/
def HasIssued (r : LinkRegistry) (place : String × String) : Prop := place.2 ∈ r.issuedOn place.1

/-- A place is reserved for a longname: it is that of its fragment on the page of its address. -/
def IsReserved (r : LinkRegistry) (longname : String) (place : String × String) : Prop :=
  ∃ url fragment, r.urlFor longname = some url ∧ r.fragmentFor longname = some fragment ∧
    place = placeOf url fragment

/-- What holds of the reserved fragments of a registry: a longname with a fragment has an
address, the place has been given out, no two longnames have the same place, and no
fragment has blanks. -/
structure IsSound (r : LinkRegistry) : Prop where
  linked : ∀ {longname fragment}, r.fragmentFor longname = some fragment →
    (r.urlFor longname).isSome
  issued : ∀ {longname place}, r.IsReserved longname place → r.HasIssued place
  apart : ∀ {longname other place}, r.IsReserved longname place → r.IsReserved other place →
    longname = other
  not_isBlank : ∀ {longname fragment}, r.fragmentFor longname = some fragment →
    ∀ c ∈ fragment.toList, Text.isBlank c = false

theorem IsSound.of_fragments_nil (h : r.fragments = []) : r.IsSound := by
  have hNone : ∀ longname, r.fragmentFor longname = none := by
    intro longname
    rw [fragmentFor, h, Dict.get?_nil]
  constructor
  case linked => simp [hNone]
  case issued =>
    rintro _ _ ⟨_, _, _, hFragment, _⟩
    simp [hNone] at hFragment
  case apart =>
    rintro _ _ _ ⟨_, _, _, hFragment, _⟩
    simp [hNone] at hFragment
  case not_isBlank => simp [hNone]

/-- A fresh registry in which tutorials have been registered. -/
def withTutorials (names : List String) : LinkRegistry :=
  names.foldl (fun r name => (r.registerTutorial name).2) fresh

theorem fragments_registerTutorial (r : LinkRegistry) (name : String) :
    (r.registerTutorial name).2.fragments = r.fragments := by
  unfold registerTutorial
  split <;> rfl

theorem urls_registerTutorial (r : LinkRegistry) (name : String) :
    (r.registerTutorial name).2.urls = r.urls := by
  unfold registerTutorial
  split <;> rfl

/-- Tutorials have neither names nor fragments among the symbols. -/
theorem urls_fragments_withTutorials (names : List String) :
    (withTutorials names).urls = fresh.urls ∧ (withTutorials names).fragments = [] := by
  induction names using List.reverseRecOn with
  | nil => exact ⟨rfl, rfl⟩
  | append_singleton names name ih =>
    simp only [withTutorials, List.foldl_append, List.foldl_cons, List.foldl_nil,
      urls_registerTutorial, fragments_registerTutorial]
    exact ih

theorem isSound_withTutorials (names : List String) : (withTutorials names).IsSound :=
  .of_fragments_nil (urls_fragments_withTutorials names).2

theorem IsSound.fragmentFor_eq_none (h : r.IsSound) {longname : String}
    (hNone : r.urlFor longname = none) : r.fragmentFor longname = none := by
  cases hFragment : r.fragmentFor longname with
  | none => rfl
  | some fragment => simpa [hNone] using h.linked hFragment

/-- What may happen to a registry while others rely on it: addresses stay, places that are
given out stay so, and a place that becomes reserved was free before. -/
structure Grows (r r' : LinkRegistry) : Prop where
  urlFor_of_some : ∀ {name url}, r.urlFor name = some url → r'.urlFor name = some url
  issued : ∀ {place}, r.HasIssued place → r'.HasIssued place
  reserved : ∀ {name place}, r'.IsReserved name place →
    r.IsReserved name place ∨ ¬ r.HasIssued place

theorem Grows.refl (r : LinkRegistry) : r.Grows r := ⟨id, id, .inl⟩

section Keep
variable (h : r.IsSound) (hUrl : ∀ {name url}, r.urlFor name = some url → r'.urlFor name = some url)
  (hFragment : ∀ name, r'.fragmentFor name = r.fragmentFor name)
  (hIssued : ∀ {place}, r.HasIssued place → r'.HasIssued place)
include h hUrl hFragment

theorem IsSound.urlFor_of_fragmentFor {name fragment : String}
    (hSome : r'.fragmentFor name = some fragment) :
    ∃ url, r.urlFor name = some url ∧ r'.urlFor name = some url := by
  rw [hFragment] at hSome
  obtain ⟨url, hOld⟩ := Option.isSome_iff_exists.1 (h.linked hSome)
  exact ⟨url, hOld, hUrl hOld⟩

theorem IsSound.isReserved_of_keep {name : String} {place : String × String}
    (hPlace : r'.IsReserved name place) : r.IsReserved name place := by
  obtain ⟨url', fragment, hUrl', hSome, rfl⟩ := hPlace
  obtain ⟨url, hOld, hNew⟩ := h.urlFor_of_fragmentFor hUrl hFragment hSome
  obtain rfl := Option.some.inj (hNew.symm.trans hUrl')
  exact ⟨url, fragment, hOld, hFragment name ▸ hSome, rfl⟩

include hIssued

/-- A step that leaves the reserved fragments alone and keeps what is there is sound. -/
theorem IsSound.of_keep : r'.IsSound where
  linked hSome := by
    obtain ⟨url, -, hNew⟩ := h.urlFor_of_fragmentFor hUrl hFragment hSome
    rw [hNew, Option.isSome_some]
  issued hPlace := hIssued (h.issued (h.isReserved_of_keep hUrl hFragment hPlace))
  apart hPlace hOther := h.apart (h.isReserved_of_keep hUrl hFragment hPlace)
    (h.isReserved_of_keep hUrl hFragment hOther)
  not_isBlank hSome := h.not_isBlank (hFragment _ ▸ hSome)

theorem IsSound.grows_of_keep : r.Grows r' where
  urlFor_of_some := hUrl
  issued := hIssued
  reserved hPlace := .inl (h.isReserved_of_keep hUrl hFragment hPlace)

end Keep

theorem hasIssued_register {place : String × String} (name : String) (url? : Option String)
    (h : r.HasIssued place) : (r.register name url?).2.HasIssued place := by
  rwa [HasIssued, issuedOn_register]

theorem IsSound.register (h : r.IsSound) (name : String) (url? : Option String) :
    (r.register name url?).2.IsSound :=
  h.of_keep (fun hUrl => urlFor_register_of_some r hUrl name url?)
    (fun longname => r.fragmentFor_register name longname url?) (hasIssued_register name url?)

theorem IsSound.grows_register (h : r.IsSound) (name : String) (url? : Option String) :
    r.Grows (r.register name url?).2 :=
  h.grows_of_keep (fun hUrl => urlFor_register_of_some r hUrl name url?)
    (fun longname => r.fragmentFor_register name longname url?) (hasIssued_register name url?)

theorem hasIssued_issueId {place : String × String} (url candidate : String)
    (h : r.HasIssued place) : (r.issueId url candidate).2.HasIssued place :=
  r.issuedOn_subset_issueId url candidate _ h

theorem IsSound.issueId (h : r.IsSound) (url candidate : String) :
    (r.issueId url candidate).2.IsSound :=
  h.of_keep id (fun _ => rfl) (hasIssued_issueId url candidate)

theorem IsSound.grows_issueId (h : r.IsSound) (url candidate : String) :
    r.Grows (r.issueId url candidate).2 :=
  h.grows_of_keep id (fun _ => rfl) (hasIssued_issueId url candidate)

/-- A fragment is given out at a place that was free. -/
theorem not_hasIssued_placeOf_issueId (r : LinkRegistry) (url candidate : String) :
    ¬ r.HasIssued (placeOf url (r.issueId url candidate).1) := r.lower_issueId_not_mem url candidate

theorem hasIssued_placeOf_issueId (r : LinkRegistry) (url candidate : String) :
    (r.issueId url candidate).2.HasIssued (placeOf url (r.issueId url candidate).1) := by
  rw [HasIssued, placeOf, issuedOn_issueId, if_pos rfl]
  exact List.mem_append_right _ (List.mem_singleton_self _)

/-! ### Links of symbols -/

section Links
variable {owner longname page fragment : String} (hLinks : Links r r' owner longname page fragment)
include hLinks

theorem Links.urlFor_of_some (hNone : r.urlFor longname = none) {name url : String}
    (hUrl : r.urlFor name = some url) : r'.urlFor name = some url := by
  have hLongname : name ≠ longname := by
    rintro rfl
    simp [hNone] at hUrl
  by_cases hOwner : name = owner
  · rw [hOwner] at hUrl ⊢
    rw [hLinks.urlFor_owner, hLinks.page_eq, register_of_urlFor r hUrl]
  · rw [hLinks.urlFor_of_ne name hOwner hLongname, hUrl]

theorem Links.hasIssued {place : String × String} (h : r.HasIssued place) : r'.HasIssued place :=
  hLinks.issuedOn_subset _ h

/-- The place of the fragment that a link reserves was free. -/
theorem Links.not_hasIssued (h : fragment ≠ "") : ¬ r.HasIssued (placeOf page fragment) :=
  hLinks.fragment_new h

theorem Links.placeOf_longname {url : String} (hUrl : r'.urlFor longname = some url)
    (fragment : String) : placeOf url fragment = placeOf page fragment := by
  rw [placeOf, placeOf, hLinks.page_longname hUrl]

/-- A place reserved after a link was reserved before for the same name, or it is the new one. -/
theorem Links.isReserved_cases (h : r.IsSound) (hNone : r.urlFor longname = none)
    {name : String} {place : String × String} (hPlace : r'.IsReserved name place) :
    (name ≠ longname ∧ r.IsReserved name place) ∨
    (name = longname ∧ fragment ≠ "" ∧ place = placeOf page fragment) := by
  obtain ⟨url', inner, hUrl', hSome, rfl⟩ := hPlace
  by_cases hName : name = longname
  · subst hName
    rw [hLinks.fragmentFor_longname, h.fragmentFor_eq_none hNone] at hSome
    split_ifs at hSome with hFragment
    obtain rfl := Option.some.inj hSome
    exact .inr ⟨rfl, hFragment, hLinks.placeOf_longname hUrl' _⟩
  · rw [hLinks.fragmentFor_of_ne name hName] at hSome
    obtain ⟨url, hOld⟩ := Option.isSome_iff_exists.1 (h.linked hSome)
    obtain rfl := Option.some.inj ((hLinks.urlFor_of_some hNone hOld).symm.trans hUrl')
    exact .inl ⟨hName, url, inner, hOld, hSome, rfl⟩

theorem Links.isSound (h : r.IsSound) (hNone : r.urlFor longname = none) : r'.IsSound := by
  constructor
  case linked =>
    intro name inner hSome
    by_cases hName : name = longname
    · rw [hName, hLinks.urlFor_longname, Option.isSome_some]
    · rw [hLinks.fragmentFor_of_ne name hName] at hSome
      obtain ⟨url, hOld⟩ := Option.isSome_iff_exists.1 (h.linked hSome)
      rw [hLinks.urlFor_of_some hNone hOld, Option.isSome_some]
  case issued =>
    intro name place hPlace
    rcases hLinks.isReserved_cases h hNone hPlace with ⟨-, hOld⟩ | ⟨-, hFragment, rfl⟩
    · exact hLinks.hasIssued (h.issued hOld)
    · exact hLinks.fragment_issued hFragment
  case apart =>
    intro name other place hPlace hOther
    rcases hLinks.isReserved_cases h hNone hPlace with ⟨-, hOld⟩ | ⟨hName, hFragment, hNew⟩ <;>
      rcases hLinks.isReserved_cases h hNone hOther with ⟨-, hOld'⟩ | ⟨hName', hFragment', hNew'⟩
    · exact h.apart hOld hOld'
    · exact absurd (hNew' ▸ h.issued hOld) (hLinks.not_hasIssued hFragment')
    · exact absurd (hNew ▸ h.issued hOld') (hLinks.not_hasIssued hFragment)
    · rw [hName, hName']
  case not_isBlank =>
    intro name inner hSome
    by_cases hName : name = longname
    · rw [hName, hLinks.fragmentFor_longname, h.fragmentFor_eq_none hNone] at hSome
      split_ifs at hSome
      obtain rfl := Option.some.inj hSome
      exact hLinks.not_isBlank
    · rw [hLinks.fragmentFor_of_ne name hName] at hSome
      exact h.not_isBlank hSome

theorem Links.grows (h : r.IsSound) (hNone : r.urlFor longname = none) : r.Grows r' where
  urlFor_of_some := hLinks.urlFor_of_some hNone
  issued := hLinks.hasIssued
  reserved hPlace := by
    rcases hLinks.isReserved_cases h hNone hPlace with ⟨-, hOld⟩ | ⟨-, hFragment, rfl⟩
    · exact .inl hOld
    · exact .inr (hLinks.not_hasIssued hFragment)

end Links

variable (s : Symbol) (longname : String) (needsFile : Bool)

theorem IsSound.createLinkFor (h : r.IsSound) :
    (r.createLinkFor s longname needsFile).2.IsSound := by
  cases hUrl : r.urlFor longname with
  | some url => rwa [createLinkFor_of_urlFor r hUrl]
  | none =>
    obtain ⟨_, _, hLinks, -⟩ := r.createLinkFor_of_none s needsFile hUrl
    exact hLinks.isSound h hUrl

/-- The link of a symbol takes a place that was free, and moves nothing. -/
theorem IsSound.grows_createLinkFor (h : r.IsSound) :
    r.Grows (r.createLinkFor s longname needsFile).2 := by
  cases hUrl : r.urlFor longname with
  | some url =>
    rw [createLinkFor_of_urlFor r hUrl]
    exact .refl r
  | none =>
    obtain ⟨_, _, hLinks, -⟩ := r.createLinkFor_of_none s needsFile hUrl
    exact hLinks.grows h hUrl

theorem urlFor_createLinkFor (r : LinkRegistry) :
    (r.createLinkFor s longname needsFile).2.urlFor longname =
      some (r.createLinkFor s longname needsFile).1 := by
  cases hUrl : r.urlFor longname with
  | some url => rw [createLinkFor_of_urlFor r hUrl, hUrl]
  | none =>
    obtain ⟨_, _, -, -, hAnswer⟩ :=
      r.createLinkFor_of_none s needsFile hUrl
    exact hAnswer

end LinkRegistry

end DocSite

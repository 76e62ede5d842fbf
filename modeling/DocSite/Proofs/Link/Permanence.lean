import DocSite.Proofs.Link.Reserved
import DocSite.Proofs.Link.IssuedFiles

/-! What a registry has once answered, it answers for the rest of a run. Every operation
writes only under keys that are new to the table it writes in: the first address of a
name, the first fragment of a longname, the first page of a tutorial, and a fragment
whose lower case is not taken on its page. So a run only adds to the tables, and a
name that is asked for again changes nothing. -/

namespace DocSite

namespace LinkRegistry

variable {r r' r'' : LinkRegistry}

/-- The fragment given out on a page under a key. -/
def idAt? (r : LinkRegistry) (page key : String) : Option String :=
  ((r.ids.get? page).getD []).get? key

/-- The fragments given out on a page. -/
def idsOn (r : LinkRegistry) (page : String) : List String := ((r.ids.get? page).getD []).vals

/-- One registry keeps the entries of another: addresses, reserved fragments, pages of
tutorials, and fragments that have been given out. -/
structure Keeps (r r' : LinkRegistry) : Prop where
  urlFor : ∀ {name url}, r.urlFor name = some url → r'.urlFor name = some url
  fragmentFor : ∀ {name fragment}, r.fragmentFor name = some fragment →
    r'.fragmentFor name = some fragment
  tutorialUrl : ∀ {name url}, r.tutorialUrl name = some url → r'.tutorialUrl name = some url
  idAt? : ∀ {page key id}, r.idAt? page key = some id → r'.idAt? page key = some id

theorem Keeps.refl (r : LinkRegistry) : r.Keeps r := ⟨id, id, id, id⟩

theorem Keeps.trans (h : r.Keeps r') (h' : r'.Keeps r'') : r.Keeps r'' where
  urlFor hUrl := h'.urlFor (h.urlFor hUrl)
  fragmentFor hFragment := h'.fragmentFor (h.fragmentFor hFragment)
  tutorialUrl hUrl := h'.tutorialUrl (h.tutorialUrl hUrl)
  idAt? hId := h'.idAt? (h.idAt? hId)

/-! ### One operation -/

section Operations
variable (r)

theorem keeps_issueFile (name : String) : r.Keeps (r.issueFile name).2 := ⟨id, id, id, id⟩

theorem keeps_register (name : String) (url? : Option String) :
    r.Keeps (r.register name url?).2 where
  urlFor hUrl := urlFor_register_of_some r hUrl name url?
  fragmentFor hFragment := (r.fragmentFor_register name _ url?).trans hFragment
  tutorialUrl hUrl := by rwa [tutorialUrl, tutorials_register]
  idAt? hId := by rwa [idAt?, ids_register]

/-- A fragment just given out stands under its lower case. -/
theorem idAt?_issueId_self (url candidate : String) :
    (r.issueId url candidate).2.idAt? (splitFragment url).1
      (Text.lower (r.issueId url candidate).1) = some (r.issueId url candidate).1 := by
  simp [idAt?, issueId, Dict.get?_put_self]

theorem keeps_issueId (url candidate : String) : r.Keeps (r.issueId url candidate).2 where
  urlFor := id
  fragmentFor := id
  tutorialUrl := id
  idAt? {page key id} hId := by
    by_cases hPage : (splitFragment url).1 = page
    · subst hPage
      have hNew := r.lower_issueId_not_mem url candidate
      have hKey : Text.lower (r.issueId url candidate).1 ≠ key :=
        fun hKey => hNew (hKey ▸ Dict.mem_keys_of_get? hId)
      rw [idAt?, issueId, Dict.get?_put_self, Option.getD_some]
      exact (Dict.get?_put_ne hKey _ _).trans hId
    · rwa [idAt?, issueId, Dict.get?_put_ne hPage]

theorem keeps_issueFragment (placement : Placement) (page : String) (s : Symbol) :
    r.Keeps (r.issueFragment placement page s).2 := by
  unfold issueFragment
  split
  · exact r.keeps_issueId page s.linkName
  · exact .refl r

/-- Reserving the first fragment of a longname takes away none. -/
theorem keeps_reserve {longname : String} (h : r.fragmentFor longname = none)
    (fragment : String) : r.Keeps (r.reserve longname fragment) where
  urlFor hUrl := (r.urlFor_reserve longname fragment _).trans hUrl
  fragmentFor {name _} hFragment := by
    have hName : name ≠ longname := by
      rintro rfl
      simp [h] at hFragment
    rwa [fragmentFor_reserve, if_neg (fun hNew => hName hNew.2)]
  tutorialUrl hUrl := by rwa [tutorialUrl, tutorials_reserve]
  idAt? hId := by
    unfold reserve
    split <;> exact hId

theorem keeps_registerTutorial (name : String) : r.Keeps (r.registerTutorial name).2 := by
  cases hUrl : r.tutorialUrl name with
  | some url =>
    rw [registerTutorial_of_tutorialUrl r hUrl]
    exact .refl r
  | none =>
    rw [registerTutorial_of_none r hUrl]
    refine ⟨id, id, ?_, id⟩
    intro other url hOther
    have hName : name ≠ other := by
      rintro rfl
      simp [hUrl] at hOther
    exact (Dict.get?_put_ne hName _ _).trans hOther

end Operations

/-- A reserved fragment is one that was given out on the page of its longname. -/
def HoldsFragments (r : LinkRegistry) : Prop :=
  ∀ {name fragment}, r.fragmentFor name = some fragment →
    ∃ url, r.urlFor name = some url ∧
      r.idAt? (splitFragment url).1 (Text.lower fragment) = some fragment

/-- A registry whose reservations are sound and were given out. -/
structure IsSettled (r : LinkRegistry) : Prop where
  isSound : r.IsSound
  holdsFragments : r.HoldsFragments

theorem isSettled_fresh : fresh.IsSettled where
  isSound := .of_fragments_nil rfl
  holdsFragments h := by simp [fragmentFor, fresh] at h

theorem Keeps.hasIssued (h : r.Keeps r') {place : String × String} (hPlace : r.HasIssued place) :
    r'.HasIssued place := by
  rw [HasIssued, issuedOn, ← Dict.has_iff_mem_keys, Dict.has, Option.isSome_iff_exists] at hPlace
  obtain ⟨id, hId⟩ := hPlace
  exact Dict.mem_keys_of_get? (h.idAt? hId)

/-- An operation that keeps the entries and reserves nothing leaves a registry settled. -/
theorem Keeps.isSettled (h : r.Keeps r') (hSettled : r.IsSettled)
    (hFragment : ∀ name, r'.fragmentFor name = r.fragmentFor name) : r'.IsSettled where
  isSound := hSettled.isSound.of_keep h.urlFor hFragment h.hasIssued
  holdsFragments := by
    intro name fragment hSome
    obtain ⟨url, hUrl, hId⟩ := hSettled.holdsFragments (hFragment name ▸ hSome)
    exact ⟨url, h.urlFor hUrl, h.idAt? hId⟩

/-! ### Links of symbols -/

theorem idAt?_issueFragment_self {r₁ r₂ : LinkRegistry} {placement : Placement}
    {page fragment : String} {s : Symbol}
    (h : r₁.issueFragment placement page s = (fragment, r₂)) (hFragment : fragment ≠ "") :
    r₂.idAt? (splitFragment page).1 (Text.lower fragment) = some fragment := by
  unfold issueFragment at h
  split at h
  · have hSelf := r₁.idAt?_issueId_self page s.linkName
    rwa [h] at hSelf
  · exact absurd (congrArg Prod.fst h).symm hFragment

section Symbol
variable (s : Symbol) (longname : String) (needsFile : Bool)

/-- The link of a symbol keeps every entry, and what it reserves was given out for it. -/
theorem IsSettled.createLinkFor (h : r.IsSettled) :
    r.Keeps (r.createLinkFor s longname needsFile).2 ∧
      (r.createLinkFor s longname needsFile).2.IsSettled := by
  cases hUrl : r.urlFor longname with
  | some url =>
    rw [createLinkFor_of_urlFor r hUrl]
    exact ⟨.refl r, h⟩
  | none =>
    rcases hPage : r.register (Placement.ofSymbol s longname needsFile).owner none with ⟨page, r₁⟩
    rcases hIssue : r₁.issueFragment (Placement.ofSymbol s longname needsFile) page s with
      ⟨fragment, r₂⟩
    have hLink := r.createLinkFor_eq hUrl hPage hIssue
    have hLinks := r.links_register hUrl hPage hIssue
    rw [← hLink] at hLinks
    have hNone := h.isSound.fragmentFor_eq_none hUrl
    have hNone₂ : r₂.fragmentFor longname = none := by
      rw [← hNone, ← r.fragmentFor_register _ longname none, hPage,
        ← r₁.fragmentFor_issueFragment _ page s, hIssue]
    have hOwned : r.Keeps r₁ := by
      have := r.keeps_register (Placement.ofSymbol s longname needsFile).owner none
      rwa [hPage] at this
    have hIssued : r₁.Keeps r₂ := by
      have := r₁.keeps_issueFragment (Placement.ofSymbol s longname needsFile) page s
      rwa [hIssue] at this
    have hLinked : r₂.Keeps (r.createLinkFor s longname needsFile).2 := by
      rw [hLink]
      exact (r₂.keeps_reserve hNone₂ fragment).trans (keeps_register _ _ _)
    have hKeeps := (hOwned.trans hIssued).trans hLinked
    refine ⟨hKeeps, h.isSound.createLinkFor s longname needsFile, ?_⟩
    intro name other hSome
    by_cases hName : name = longname
    · subst hName
      rw [hLinks.fragmentFor_longname, hNone] at hSome
      split_ifs at hSome with hFragment
      obtain rfl := Option.some.inj hSome
      refine ⟨_, hLinks.urlFor_longname, ?_⟩
      rw [hLinks.page_longname hLinks.urlFor_longname]
      exact hLinked.idAt? (idAt?_issueFragment_self hIssue hFragment)
    · rw [hLinks.fragmentFor_of_ne name hName] at hSome
      obtain ⟨url, hOld, hId⟩ := h.holdsFragments hSome
      exact ⟨url, hKeeps.urlFor hOld, hKeeps.idAt? hId⟩

end Symbol

/-! ### Runs -/

theorem handle_symbol_of_longname {s : Symbol} {longname : String}
    (h : s.longname = some longname) (r : LinkRegistry) (needsFile : List String) :
    r.handle (.symbol s needsFile) =
      (.ok (r.createLinkFor s longname (needsFile.contains longname)).1,
        (r.createLinkFor s longname (needsFile.contains longname)).2) := by
  simp [handle, createLink, h]

theorem handle_symbol_of_no_longname {s : Symbol} (h : s.longname = none) (r : LinkRegistry)
    (needsFile : List String) : r.handle (.symbol s needsFile) = (.error .noLongname, r) := by
  simp [handle, createLink, h]

/-- A request keeps every entry of the registry, whatever it asks for. -/
theorem IsSettled.handle (h : r.IsSettled) (request : LinkRequest) :
    r.Keeps (r.handle request).2 ∧ (r.handle request).2.IsSettled := by
  cases request with
  | file name =>
    have hKeeps := r.keeps_issueFile name
    exact ⟨hKeeps, hKeeps.isSettled h fun _ => rfl⟩
  | page name url? =>
    have hKeeps := r.keeps_register name url?
    exact ⟨hKeeps, hKeeps.isSettled h fun other => r.fragmentFor_register name other url?⟩
  | fragment url candidate =>
    have hKeeps := r.keeps_issueId url candidate
    exact ⟨hKeeps, hKeeps.isSettled h fun _ => rfl⟩
  | symbol s needsFile =>
    cases hLongname : s.longname with
    | none =>
      rw [handle_symbol_of_no_longname hLongname]
      exact ⟨.refl r, h⟩
    | some longname =>
      rw [handle_symbol_of_longname hLongname]
      exact h.createLinkFor s longname (needsFile.contains longname)
  | tutorial name =>
    have hKeeps := r.keeps_registerTutorial name
    have hFragments := r.fragments_registerTutorial name
    exact ⟨hKeeps, hKeeps.isSettled h fun other => congrArg (Dict.get? · other) hFragments⟩

theorem isSettled_run (requests : List LinkRequest) : (run requests).IsSettled := by
  induction requests using List.reverseRecOn with
  | nil => exact isSettled_fresh
  | append_singleton requests request ih =>
    rw [run_append]
    exact (ih.handle request).2

/-- Whatever is asked for later in a run, the entries made so far are kept. -/
theorem keeps_run (requests later : List LinkRequest) :
    (run requests).Keeps (run (requests ++ later)) := by
  induction later using List.reverseRecOn with
  | nil =>
    rw [List.append_nil]
    exact .refl _
  | append_singleton later request ih =>
    rw [← List.append_assoc, run_append]
    exact ih.trans ((isSettled_run _).handle request).1

/-- A request is answered with an address, and the registry stays exactly as it is. -/
def Recalls (r : LinkRegistry) (request : LinkRequest) (url : String) : Prop :=
  r.handle request = (.ok url, r)

/-- What the link of a symbol is answered with is the address of its longname after it. -/
theorem urlFor_of_handle_symbol {s : Symbol} {longname : String}
    (h : s.longname = some longname) (r : LinkRegistry) (needsFile : List String) :
    ∃ url, (r.handle (.symbol s needsFile)).1 = .ok url ∧
      (r.handle (.symbol s needsFile)).2.urlFor longname = some url := by
  rw [handle_symbol_of_longname h]
  exact ⟨_, rfl, urlFor_createLinkFor s longname _ r⟩

/-- The first registration of a name wins. In any run of requests an address, a reserved
fragment or the page of a tutorial stays what it is to the end, and to ask for the name
again, in any way, is answered with its address and leaves the whole registry as it is. A
symbol with a longname is always answered with the address of its longname, and one
without is refused. Every reserved fragment was given out on the page of its longname, and
two longnames share no fragment on a page, even where case is ignored. -/
theorem first_registration_stays (requests later : List LinkRequest) :
    (∀ name url, (run requests).urlFor name = some url →
      (run (requests ++ later)).urlFor name = some url ∧
      (∀ url?, (run (requests ++ later)).Recalls (.page name url?) url) ∧
      ∀ s needsFile, s.longname = some name →
        (run (requests ++ later)).Recalls (.symbol s needsFile) url) ∧
    (∀ name fragment, (run requests).fragmentFor name = some fragment →
      (run (requests ++ later)).fragmentFor name = some fragment) ∧
    (∀ name url, (run requests).tutorialUrl name = some url →
      (run (requests ++ later)).tutorialUrl name = some url ∧
      (run (requests ++ later)).Recalls (.tutorial name) url) ∧
    (∀ (s : Symbol) needsFile, match s.longname with
      | some longname => ∃ url, ((run requests).handle (.symbol s needsFile)).1 = .ok url ∧
          ((run requests).handle (.symbol s needsFile)).2.urlFor longname = some url
      | none =>
          (run requests).handle (.symbol s needsFile) = (.error .noLongname, run requests)) ∧
    (∀ name fragment, (run requests).fragmentFor name = some fragment →
      ∃ url, (run requests).urlFor name = some url ∧
        fragment ∈ (run requests).idsOn (splitFragment url).1) ∧
    (∀ name other place, (run requests).IsReserved name place →
      (run requests).IsReserved other place → name = other) := by
  have hKeeps := keeps_run requests later
  have hSettled := isSettled_run requests
  refine ⟨?_, fun _ _ => hKeeps.fragmentFor, ?_, ?_, ?_, fun _ _ _ => hSettled.isSound.apart⟩
  · intro name url hUrl
    have hLater := hKeeps.urlFor hUrl
    refine ⟨hLater, ?_, ?_⟩
    · intro url?
      simp [Recalls, handle, register_of_urlFor _ hLater]
    · intro s needsFile hLongname
      rw [Recalls, handle_symbol_of_longname hLongname, createLinkFor_of_urlFor _ hLater]
  · intro name url hUrl
    have hLater := hKeeps.tutorialUrl hUrl
    refine ⟨hLater, ?_⟩
    simp [Recalls, handle, registerTutorial_of_tutorialUrl _ hLater]
  · intro s needsFile
    cases hLongname : s.longname with
    | none => exact handle_symbol_of_no_longname hLongname _ needsFile
    | some longname => exact urlFor_of_handle_symbol hLongname _ needsFile
  · intro name fragment hFragment
    obtain ⟨url, hUrl, hId⟩ := hSettled.holdsFragments hFragment
    exact ⟨url, hUrl, Dict.mem_vals_of_get? hId⟩

end LinkRegistry

end DocSite

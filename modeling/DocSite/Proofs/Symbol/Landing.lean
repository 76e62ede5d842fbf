import DocSite.Proofs.Symbol.Linking

/-! Whether the link of a longname lands on its first symbol: whether the fragment of its
address is the id of that symbol, and is what the registry keeps for it. The address of
a longname is decided when its first symbol is linked, from the address of its owner.
If that has a fragment already, a second one stands behind the first and is no id; and a
longname that owns itself keeps the address of its page, whatever fragment it gets. All
other links land. -/

namespace DocSite

namespace LinkRegistry

variable {r r' : LinkRegistry}

/-! ### Addresses -/

/-- An address as the registry makes them: an encoded text, with something behind its hash
if it has one. -/
structure IsAddress (url : String) : Prop where
  encoded : ∃ text, url = Text.percentEncode text
  anchored : '#' ∈ url.toList → (splitFragment url).2 ≠ ""

theorem IsAddress.of_not_mem {text : String} (h : '#' ∉ (Text.percentEncode text).toList) :
    IsAddress (Text.percentEncode text) := ⟨⟨text, rfl⟩, fun hHash => absurd hHash h⟩

theorem isAddress_pageUrl {base : String} (h : ∀ c ∈ base.toList, FileName.IsSafe c) :
    IsAddress (pageUrl base) := .of_not_mem (hash_not_mem_pageUrl h)

theorem IsAddress.append {page fragment : String} (h : IsAddress page) (hFragment : fragment ≠ "") :
    IsAddress (page ++ "#" ++ Text.percentEncode fragment) := by
  obtain ⟨text, hText⟩ := h.encoded
  constructor
  case encoded =>
    refine ⟨text ++ "#" ++ fragment, ?_⟩
    rw [Text.percentEncode_append, Text.percentEncode_append, percentEncode_hash, hText]
  case anchored =>
    intro _
    rw [splitFragment_append]
    split
    · simp
    · exact Text.percentEncode_ne_empty hFragment

/-- A fragment behind another one does not decode to itself. -/
theorem IsAddress.percentDecode_append_ne {page : String} (h : IsAddress page)
    (hHash : '#' ∈ page.toList) (fragment : String) :
    Text.percentDecode (splitFragment (page ++ "#" ++ Text.percentEncode fragment)).2 ≠
      fragment := by
  obtain ⟨text, rfl⟩ := h.encoded
  have hDecode : Text.percentDecode ((splitFragment (Text.percentEncode text)).2 ++ "#" ++
      Text.percentEncode fragment) = (splitFragment text).2 ++ "#" ++ fragment := by
    have hEncoded : (splitFragment (Text.percentEncode text)).2 ++ "#" ++
        Text.percentEncode fragment =
          Text.percentEncode ((splitFragment text).2 ++ "#" ++ fragment) := by
      rw [splitFragment_percentEncode, Text.percentEncode_append, Text.percentEncode_append,
        percentEncode_hash]
    rw [hEncoded, Text.percentDecode_percentEncode]
  rw [splitFragment_append, if_pos hHash, hDecode]
  intro hEq
  have hLength := congrArg String.length hEq
  simp only [String.length_append] at hLength
  have : "#".length = 1 := rfl
  omega

/-- The page that is registered for a name is the address of that name, or a new one. -/
theorem register_none_induct {P : String → Prop} {name : String}
    (old : ∀ url, r.urlFor name = some url → P url) (new : P (pageUrl (r.baseFor name))) :
    P (r.register name none).1 := by
  obtain ⟨url, hUrl, hEq⟩ | ⟨_, _, hSome, _⟩ | ⟨_, _, hEq⟩ := r.register_cases name none
  · rw [hEq]
    exact old url hUrl
  · exact absurd hSome (by simp)
  · rw [hEq]
    exact new

/-! ### Linked longnames -/

/-- Whether the address of a name leads to a fragment. -/
def HasAnchor (r : LinkRegistry) (name : String) : Prop :=
  ∃ url, r.urlFor name = some url ∧ (splitFragment url).2 ≠ ""

/-- Whether the link of a longname lands on a symbol: the fragment of its address, decoded,
is the id of the symbol and the fragment kept for the longname, and without a fragment in
the address none is kept. -/
def Lands (r : LinkRegistry) (longname : String) (s : Symbol) : Prop :=
  ∃ url, r.urlFor longname = some url ∧
    ((splitFragment url).2 ≠ "" → s.id = some (Text.percentDecode (splitFragment url).2)) ∧
    r.fragmentFor longname = if (splitFragment url).2 = "" then none
      else some (Text.percentDecode (splitFragment url).2)

/-- How a longname was linked by its first symbol: it is the name of a page, it owns itself
and got a fragment of its own page, it has the address of its owner, or that with a
fragment behind it, which is the id of the symbol. -/
inductive LinkedAs (r : LinkRegistry) (owner longname : String) (s : Symbol) : Prop
  | page {url : String} (hUrl : r.urlFor longname = some url) (hHash : '#' ∉ url.toList)
      (hFragment : r.fragmentFor longname = none)
  | itself {url fragment : String} (hOwner : owner = longname)
      (hUrl : r.urlFor longname = some url) (hHash : '#' ∉ url.toList)
      (hFragment : r.fragmentFor longname = some fragment)
  | shared {page : String} (hOwner : owner ≠ longname) (hPage : r.urlFor owner = some page)
      (hUrl : r.urlFor longname = some page) (hFragment : r.fragmentFor longname = none)
  | anchored {page fragment : String} (hOwner : owner ≠ longname)
      (hPage : r.urlFor owner = some page) (hNonempty : fragment ≠ "")
      (hUrl : r.urlFor longname = some (page ++ "#" ++ Text.percentEncode fragment))
      (hFragment : r.fragmentFor longname = some fragment) (hId : s.id = some fragment)

section LinkedAs
variable {owner longname : String} {s : Symbol}

theorem HasAnchor.iff_of_urlFor {name url : String} (h : r.urlFor name = some url) :
    r.HasAnchor name ↔ (splitFragment url).2 ≠ "" := by
  constructor
  · rintro ⟨other, hOther, hAnchor⟩
    rwa [Option.some.inj (h.symm.trans hOther)]
  · exact fun hAnchor => ⟨url, h, hAnchor⟩

theorem Lands.iff_of_urlFor {url : String} (h : r.urlFor longname = some url) :
    r.Lands longname s ↔
      ((splitFragment url).2 ≠ "" → s.id = some (Text.percentDecode (splitFragment url).2)) ∧
      r.fragmentFor longname = if (splitFragment url).2 = "" then none
        else some (Text.percentDecode (splitFragment url).2) := by
  constructor
  · rintro ⟨other, hOther, hLands⟩
    rwa [Option.some.inj (h.symm.trans hOther)]
  · exact fun hLands => ⟨url, h, hLands⟩

theorem LinkedAs.urlFor_isSome (h : r.LinkedAs owner longname s) :
    (r.urlFor longname).isSome := by
  cases h with
  | page hUrl => simp [hUrl]
  | itself _ hUrl => simp [hUrl]
  | shared _ _ hUrl => simp [hUrl]
  | anchored _ _ _ hUrl => simp [hUrl]

/-- How a longname was linked stays so while the registry grows. -/
theorem LinkedAs.of_keep (h : r.LinkedAs owner longname s)
    (hUrls : ∀ {name url}, r.urlFor name = some url → r'.urlFor name = some url)
    (hFragments : ∀ {name url}, r.urlFor name = some url →
      r'.fragmentFor name = r.fragmentFor name) : r'.LinkedAs owner longname s := by
  cases h with
  | page hUrl hHash hFragment =>
    exact .page (hUrls hUrl) hHash (by rw [hFragments hUrl, hFragment])
  | itself hOwner hUrl hHash hFragment =>
    exact .itself hOwner (hUrls hUrl) hHash (by rw [hFragments hUrl, hFragment])
  | shared hOwner hPage hUrl hFragment =>
    exact .shared hOwner (hUrls hPage) (hUrls hUrl) (by rw [hFragments hUrl, hFragment])
  | anchored hOwner hPage hNonempty hUrl hFragment hId =>
    exact .anchored hOwner (hUrls hPage) hNonempty (hUrls hUrl)
      (by rw [hFragments hUrl, hFragment]) hId

/-- A longname that was linked lands, unless a fragment stands behind that of its owner or it
keeps a fragment of the page that it owns. -/
theorem LinkedAs.lands_iff (h : r.LinkedAs owner longname s)
    (hAddress : ∀ {name url}, r.urlFor name = some url → IsAddress url) :
    r.Lands longname s ↔ ¬ (r.HasAnchor longname ∧ r.HasAnchor owner) ∧
      ¬ (owner = longname ∧ (r.fragmentFor longname).isSome) := by
  cases h with
  | page hUrl hHash hFragment =>
    have hSplit := congrArg Prod.snd (splitFragment_of_not_mem hHash)
    simp [Lands.iff_of_urlFor hUrl, HasAnchor.iff_of_urlFor hUrl, hFragment, hSplit]
  | itself hOwner hUrl hHash hFragment =>
    have hSplit := congrArg Prod.snd (splitFragment_of_not_mem hHash)
    simp [Lands.iff_of_urlFor hUrl, hFragment, hSplit, hOwner]
  | @shared page hOwner hPage hUrl hFragment =>
    rw [Lands.iff_of_urlFor hUrl, HasAnchor.iff_of_urlFor hUrl, HasAnchor.iff_of_urlFor hPage,
      hFragment]
    by_cases hEmpty : (splitFragment page).2 = "" <;> simp [hEmpty, hOwner]
  | @anchored page fragment hOwner hPage hNonempty hUrl hFragment hId =>
    have hSplit := splitFragment_append page (Text.percentEncode fragment)
    rw [Lands.iff_of_urlFor hUrl, HasAnchor.iff_of_urlFor hUrl, HasAnchor.iff_of_urlFor hPage,
      hFragment]
    by_cases hHash : '#' ∈ page.toList
    · have hAnchor := (hAddress hPage).anchored hHash
      have hAnchor' := ((hAddress hPage).append hNonempty).anchored (by simp)
      have hNe := (hAddress hPage).percentDecode_append_ne hHash fragment
      simp [hAnchor, hAnchor', hNe.symm]
    · have hPageSplit := congrArg Prod.snd (splitFragment_of_not_mem hHash)
      rw [if_neg hHash] at hSplit
      simp [hSplit, hPageSplit, hOwner, hId, Text.percentEncode_ne_empty hNonempty,
        Text.percentDecode_percentEncode]

end LinkedAs

/-! ### One link -/

/-- What holds of a registry in which the longnames of some symbols have been linked: all
addresses are as the registry makes them, and a name that none of the symbols bears has
an address without fragment, if any, and no fragment is kept for it. -/
structure HasLinked (r : LinkRegistry) (bears : String → Prop) : Prop where
  isAddress : ∀ {name url}, r.urlFor name = some url → IsAddress url
  page : ∀ {name url}, ¬ bears name → r.urlFor name = some url → '#' ∉ url.toList
  fragmentFor_eq_none : ∀ {name}, ¬ bears name → r.fragmentFor name = none

section Links
variable {bears : String → Prop} {owner longname page fragment : String} (h : r.HasLinked bears)
  (hLinks : Links r r' owner longname page fragment) (hNone : r.urlFor longname = none)
include h hLinks

theorem HasLinked.isAddress_page : IsAddress page := by
  rw [hLinks.page_eq]
  exact register_none_induct (fun _ => h.isAddress) (isAddress_pageUrl (r.isSafe_baseFor owner))

include hNone

/-- A link is made as the registry makes addresses, and names without symbol stay pages. -/
theorem HasLinked.links : r'.HasLinked fun name => bears name ∨ name = longname := by
  constructor
  case isAddress =>
    intro name url hUrl
    by_cases hName : name = longname
    · subst hName
      obtain rfl := Option.some.inj (hLinks.urlFor_longname.symm.trans hUrl)
      split_ifs with hPage
      · exact h.isAddress_page hLinks
      · exact (h.isAddress_page hLinks).append (fun hEmpty => hPage (.inr hEmpty))
    · by_cases hOwner : name = owner
      · subst hOwner
        obtain rfl := Option.some.inj (hLinks.urlFor_owner.symm.trans hUrl)
        exact h.isAddress_page hLinks
      · rw [hLinks.urlFor_of_ne name hOwner hName] at hUrl
        exact h.isAddress hUrl
  case page =>
    intro name url hBears hUrl
    obtain ⟨hBears, hName⟩ := not_or.1 hBears
    by_cases hOwner : name = owner
    · subst hOwner
      obtain rfl := Option.some.inj (hLinks.urlFor_owner.symm.trans hUrl)
      rw [hLinks.page_eq]
      exact register_none_induct (P := fun url => '#' ∉ url.toList) (fun _ => h.page hBears)
        (hash_not_mem_pageUrl (r.isSafe_baseFor name))
    · rw [hLinks.urlFor_of_ne name hOwner hName] at hUrl
      exact h.page hBears hUrl
  case fragmentFor_eq_none =>
    intro name hBears
    obtain ⟨hBears, hName⟩ := not_or.1 hBears
    rw [hLinks.fragmentFor_of_ne name hName, h.fragmentFor_eq_none hBears]

/-- A longname that has no address yet is linked by the symbol that gets its fragment as id. -/
theorem HasLinked.linkedAs (hBears : ¬ bears longname) {s : Symbol}
    (hId : owner ≠ longname → fragment ≠ "" → s.id = some fragment) :
    r'.LinkedAs owner longname s := by
  have hFragment := hLinks.fragmentFor_longname
  rw [h.fragmentFor_eq_none hBears] at hFragment
  have hUrl := hLinks.urlFor_longname
  by_cases hOwner : owner = longname
  · have hHash : '#' ∉ page.toList := by
      rw [hLinks.page_eq, hOwner]
      exact register_none_induct (P := fun url => '#' ∉ url.toList)
        (fun _ hSome => absurd hSome (by simp [hNone]))
        (hash_not_mem_pageUrl (r.isSafe_baseFor longname))
    rw [if_pos (.inl hOwner)] at hUrl
    split_ifs at hFragment with hEmpty
    · exact .page hUrl hHash hFragment
    · exact .itself hOwner hUrl hHash hFragment
  · by_cases hEmpty : fragment = ""
    · rw [if_pos (.inr hEmpty)] at hUrl
      rw [if_pos hEmpty] at hFragment
      exact .shared hOwner hLinks.urlFor_owner hUrl hFragment
    · rw [if_neg (by simp [hOwner, hEmpty])] at hUrl
      rw [if_neg hEmpty] at hFragment
      exact .anchored hOwner hLinks.urlFor_owner hEmpty hUrl hFragment (hId hOwner hEmpty)

end Links

theorem HasLinked.mono {bears bears' : String → Prop} (h : r.HasLinked bears)
    (hBears : ∀ name, bears name → bears' name) : r.HasLinked bears' where
  isAddress := h.isAddress
  page hName := h.page (mt (hBears _) hName)
  fragmentFor_eq_none hName := h.fragmentFor_eq_none (mt (hBears _) hName)

/-- A registry with the addresses and fragments of another one has linked the same. -/
theorem HasLinked.congr {bears : String → Prop} (h : r.HasLinked bears)
    (hUrl : ∀ name, r'.urlFor name = r.urlFor name)
    (hFragment : ∀ name, r'.fragmentFor name = r.fragmentFor name) : r'.HasLinked bears where
  isAddress hName := h.isAddress (hUrl _ ▸ hName)
  page hName hSome := h.page hName (hUrl _ ▸ hSome)
  fragmentFor_eq_none hName := hFragment _ ▸ h.fragmentFor_eq_none hName

/-- Pages may be registered for other names. -/
theorem HasLinked.register {bears : String → Prop} (h : r.HasLinked bears) (name : String) :
    (r.register name none).2.HasLinked bears := by
  constructor
  case isAddress =>
    intro other url hUrl
    by_cases hName : other = name
    · subst hName
      obtain rfl := Option.some.inj ((r.urlFor_register_self other none).symm.trans hUrl)
      exact register_none_induct (fun _ => h.isAddress)
        (isAddress_pageUrl (r.isSafe_baseFor other))
    · rw [urlFor_register_of_ne r hName] at hUrl
      exact h.isAddress hUrl
  case page =>
    intro other url hBears hUrl
    by_cases hName : other = name
    · subst hName
      obtain rfl := Option.some.inj ((r.urlFor_register_self other none).symm.trans hUrl)
      exact register_none_induct (P := fun url => '#' ∉ url.toList) (fun _ => h.page hBears)
        (hash_not_mem_pageUrl (r.isSafe_baseFor other))
    · rw [urlFor_register_of_ne r hName] at hUrl
      exact h.page hBears hUrl
  case fragmentFor_eq_none =>
    intro other hBears
    rw [fragmentFor_register, h.fragmentFor_eq_none hBears]

theorem hasLinked_withTutorials (names : List String) :
    (withTutorials names).HasLinked fun _ => False := by
  obtain ⟨hUrls, hFragments⟩ := urls_fragments_withTutorials names
  have hUrl : ∀ {name url}, (withTutorials names).urlFor name = some url → url = globalUrl := by
    intro name url hSome
    rw [urlFor, hUrls] at hSome
    exact (eq_global_of_urlFor_fresh hSome).2
  constructor
  case isAddress =>
    intro name url hSome
    rw [hUrl hSome, ← pageUrl_globalName]
    exact isAddress_pageUrl isSafe_globalName
  case page =>
    intro name url _ hSome
    rw [hUrl hSome]
    exact hash_not_mem_globalUrl
  case fragmentFor_eq_none => simp [fragmentFor, hFragments]

end LinkRegistry

namespace SymbolIndex

/-- The first of some symbols with a longname. -/
def firstNamed? (symbols : List Symbol) (longname : String) : Option Symbol :=
  symbols.find? fun s => s.longname == some longname

/-- The name that the page of a symbol is registered under. -/
def ownerOf (needsFile : List String) (s : Symbol) (longname : String) : String :=
  (Placement.ofSymbol s longname (needsFile.contains longname)).owner

theorem firstNamed?_append (symbols : List Symbol) (s : Symbol) (longname : String) :
    firstNamed? (symbols ++ [s]) longname = (firstNamed? symbols longname).or
      (if s.longname = some longname then some s else none) := by
  simp only [firstNamed?, List.find?_append, List.find?_cons, List.find?_nil]
  by_cases h : s.longname = some longname
  · simp [h]
  · simp [h, beq_eq_false_iff_ne.2 h]

theorem firstNamed?_append_of_ne {symbols : List Symbol} {s : Symbol} {longname : String}
    (h : s.longname ≠ some longname) :
    firstNamed? (symbols ++ [s]) longname = firstNamed? symbols longname := by
  rw [firstNamed?_append, if_neg h, Option.or_none]

theorem firstNamed?_append_self {symbols : List Symbol} {s : Symbol} {longname : String}
    (h : s.longname = some longname) :
    firstNamed? (symbols ++ [s]) longname = some ((firstNamed? symbols longname).getD s) := by
  rw [firstNamed?_append, if_pos h]
  cases firstNamed? symbols longname <;> rfl

namespace Linking

variable {l l' : Linking} {needsFile : List String} {done : List Symbol}

/-- An id is given without a change to addresses and reserved fragments, and at most the
fragment of the longname is claimed. -/
theorem assignId_keeps (l : Linking) (s : Symbol) (longname url : String) :
    (∀ name, (l.assignId s longname url).2.registry.urlFor name = l.registry.urlFor name) ∧
    (∀ name, (l.assignId s longname url).2.registry.fragmentFor name =
      l.registry.fragmentFor name) ∧
    (l.assignId s longname url).2.claimed ⊆ longname :: l.claimed := by
  rcases l.assignId_cases s longname url with
    ⟨_, _, _, _, hEq⟩ | ⟨_, hEq | ⟨_, hEq⟩⟩ <;> rw [hEq]
  · exact ⟨fun _ => rfl, fun _ => rfl, List.Subset.refl _⟩
  · exact ⟨fun _ => rfl, fun _ => rfl, List.subset_cons_self _ _⟩
  · exact ⟨fun _ => rfl, fun _ => rfl, List.subset_cons_self _ _⟩

/-- The first symbol of a longname gets the fragment that is in its address. -/
theorem assignId_reserved (l : Linking) (s : Symbol) {longname url fragment : String}
    (hFragment : l.registry.fragmentFor longname = some fragment)
    (hClaimed : longname ∉ l.claimed) (hUrl : (splitFragment url).2 ≠ "") :
    (l.assignId s longname url).1 = some fragment := by
  rcases l.assignId_cases s longname url with ⟨other, hOther, _, _, hEq⟩ | ⟨h, _⟩
  · rw [hEq, ← hOther, hFragment]
  · rcases h with h | h | h
    · simp [hFragment] at h
    · exact absurd h hClaimed
    · exact absurd h hUrl

/-- What holds of a linking and the symbols that it has linked: the longnames of these are
linked by their first symbols, and only they have claimed fragments. -/
structure HasAnchors (needsFile : List String) (l : Linking) (done : List Symbol) : Prop where
  registry : l.registry.HasLinked fun name => (firstNamed? done name).isSome
  linked : ∀ {longname s}, firstNamed? done longname = some s →
    l.registry.LinkedAs (ownerOf needsFile s longname) longname s
  claimed : ∀ longname ∈ l.claimed, (firstNamed? done longname).isSome

theorem HasAnchors.nil (h : l.registry.HasLinked fun _ => False) (hClaimed : l.claimed = []) :
    HasAnchors needsFile l [] where
  registry := h.mono fun _ => False.elim
  linked hNamed := by simp [firstNamed?] at hNamed
  claimed := by simp [hClaimed]

/-- A symbol without a longname is passed over. -/
theorem HasAnchors.append_of_none (h : HasAnchors needsFile l done) {s : Symbol}
    (hLongname : s.longname = none) : HasAnchors needsFile l (done ++ [s]) := by
  have hNamed : firstNamed? (done ++ [s]) = firstNamed? done :=
    funext fun name => firstNamed?_append_of_ne (by simp [hLongname])
  constructor
  · rw [hNamed]
    exact h.registry
  · rw [hNamed]
    exact h.linked
  · rw [hNamed]
    exact h.claimed

/-- One symbol more is linked: as the first of its longname, or after it. -/
theorem HasAnchors.append (h : HasAnchors needsFile l done) {s : Symbol} {longname : String}
    (hLongname : s.longname = some longname)
    (hRegistry : l'.registry.HasLinked fun name =>
      (firstNamed? done name).isSome ∨ name = longname)
    (hUrls : ∀ {name url}, l.registry.urlFor name = some url → l'.registry.urlFor name = some url)
    (hFragments : ∀ {name url}, l.registry.urlFor name = some url →
      l'.registry.fragmentFor name = l.registry.fragmentFor name)
    (hClaimed : l'.claimed ⊆ longname :: l.claimed)
    (hFirst : firstNamed? done longname = none →
      l'.registry.LinkedAs (ownerOf needsFile s longname) longname s) :
    HasAnchors needsFile l' (done ++ [s]) := by
  have hOld : ∀ {name t}, firstNamed? done name = some t →
      l'.registry.LinkedAs (ownerOf needsFile t name) name t :=
    fun hNamed => (h.linked hNamed).of_keep hUrls hFragments
  constructor
  case registry =>
    refine hRegistry.mono ?_
    rintro name (hName | rfl)
    · rw [firstNamed?_append]
      obtain ⟨t, ht⟩ := Option.isSome_iff_exists.1 hName
      simp [ht]
    · simp [firstNamed?_append_self hLongname]
  case linked =>
    intro name t hNamed
    by_cases hName : s.longname = some name
    · obtain rfl := Option.some.inj (hLongname.symm.trans hName)
      rw [firstNamed?_append_self hName] at hNamed
      cases hDone : firstNamed? done longname with
      | none =>
        rw [hDone] at hNamed
        obtain rfl := Option.some.inj hNamed
        exact hFirst hDone
      | some u =>
        rw [hDone] at hNamed
        obtain rfl := Option.some.inj hNamed
        exact hOld hDone
    · rw [firstNamed?_append_of_ne hName] at hNamed
      exact hOld hNamed
  case claimed =>
    intro name hName
    rcases List.mem_cons.1 (hClaimed hName) with rfl | hName
    · simp [firstNamed?_append_self hLongname]
    · obtain ⟨t, ht⟩ := Option.isSome_iff_exists.1 (h.claimed name hName)
      simp [firstNamed?_append, ht]

/-- The link of one symbol keeps to the addresses and fragments that the registry makes. -/
theorem HasAnchors.link (h : HasAnchors needsFile l done) (s : Symbol) :
    ∃ s' l', l.link needsFile s = .ok (s', l') ∧ HasAnchors needsFile l' (done ++ [s']) := by
  cases hLongname : s.longname with
  | none => exact ⟨s, l, l.link_of_none needsFile hLongname, h.append_of_none hLongname⟩
  | some longname =>
    obtain ⟨url, r, hCreate, hUrl, hLink⟩ := l.link_of_some needsFile hLongname
    obtain ⟨hKeepUrl, hKeepFragment, hClaimed⟩ :=
      assignId_keeps { l with registry := r } s longname url
    have hReserved := @assignId_reserved { l with registry := r } s longname url
    generalize hAssign : ({ l with registry := r } : Linking).assignId s longname url = answer
      at hKeepUrl hKeepFragment hClaimed hReserved
    obtain ⟨id, l'⟩ := answer
    refine ⟨_, l', hLink hAssign, ?_⟩
    cases hOld : l.registry.urlFor longname with
    | some old =>
      rw [LinkRegistry.createLinkFor_of_urlFor _ hOld] at hCreate
      obtain ⟨rfl, rfl⟩ := Prod.mk.inj hCreate
      refine h.append hLongname ((h.registry.mono fun _ => .inl).congr hKeepUrl hKeepFragment)
        (fun hSome => (hKeepUrl _).trans hSome) (fun _ => hKeepFragment _) hClaimed ?_
      -- the address was registered for the owner of an earlier symbol
      intro hFirst
      have hBears : ¬ (firstNamed? done longname).isSome := by simp [hFirst]
      exact .page ((hKeepUrl _).trans hOld) (h.registry.page hBears hOld)
        ((hKeepFragment _).trans (h.registry.fragmentFor_eq_none hBears))
    | none =>
      have hFirst : firstNamed? done longname = none := by
        cases hNamed : firstNamed? done longname with
        | none => rfl
        | some t =>
          have hSome := (h.linked hNamed).urlFor_isSome
          rw [hOld] at hSome
          contradiction
      have hBears : ¬ (firstNamed? done longname).isSome := by simp [hFirst]
      obtain ⟨page, fragment, hLinks, -, -⟩ := l.registry.createLinkFor_of_none s
        (needsFile.contains longname) hOld
      rw [hCreate] at hLinks
      refine h.append hLongname ((h.registry.links hLinks hOld).congr hKeepUrl hKeepFragment)
        (fun hSome => (hKeepUrl _).trans (hLinks.urlFor_of_some hOld hSome)) ?_ hClaimed ?_
      · intro name other hSome
        rw [hKeepFragment, hLinks.fragmentFor_of_ne]
        rintro rfl
        simp [hOld] at hSome
      · intro _
        refine (h.registry.linkedAs hLinks hOld hBears ?_).of_keep
          (fun hSome => (hKeepUrl _).trans hSome) (fun _ => hKeepFragment _)
        intro hOwner hNonempty
        have hAddress := hLinks.urlFor_longname
        rw [if_neg (not_or.2 ⟨hOwner, hNonempty⟩)] at hAddress
        obtain rfl := Option.some.inj (hUrl.symm.trans hAddress)
        refine hReserved ?_ (mt (h.claimed longname) hBears) ?_
        · exact hLinks.fragmentFor_longname.trans (if_neg hNonempty)
        · exact ((h.registry.isAddress_page hLinks).append hNonempty).anchored (by simp)

/-- A page that is registered afterwards leaves the links as they are. -/
theorem HasAnchors.register (h : HasAnchors needsFile l done) (path : String) :
    HasAnchors needsFile { l with registry := (l.registry.register path none).2 } done where
  registry := h.registry.register path
  linked hNamed := (h.linked hNamed).of_keep
    (fun hUrl => LinkRegistry.urlFor_register_of_some _ hUrl path none)
    (fun _ => LinkRegistry.fragmentFor_register _ path _ none)
  claimed := h.claimed

end Linking

/-- In a finished index the link of a longname lands on its first symbol, unless it stands
behind the fragment of its owner, or the longname owns itself and keeps a fragment. -/
theorem lands_firstNamed_iff (tutorials : List String) (doclets : List Doclet)
    (registersSources : Bool) :
    ∃ ix, ((empty (.withTutorials tutorials) registersSources).ingest doclets).finalize = .ok ix ∧
      ∀ longname s, firstNamed? ix.retained longname = some s →
        (ix.registry.Lands longname s ↔
          ¬ (ix.registry.HasAnchor longname ∧
            ix.registry.HasAnchor (ownerOf ix.outputLongnames s longname)) ∧
          ¬ (ownerOf ix.outputLongnames s longname = longname ∧
            (ix.registry.fragmentFor longname).isSome)) := by
  have hOpen := (isOpen_empty (.withTutorials tutorials) registersSources).ingest doclets
  obtain ⟨ix, l, hFinalize, hFinal, hNeedsFile, hRegistry⟩ :=
    hOpen.finalize_induct (P := Linking.HasAnchors _)
      (.nil (by rw [registry_ingest]; exact LinkRegistry.hasLinked_withTutorials tutorials) rfl)
      (fun s _ l done h => h.link s) (fun l done path h => h.register path)
  refine ⟨ix, hFinalize, fun longname s hFirst => ?_⟩
  rw [hRegistry, hNeedsFile]
  exact (hFinal.linked hFirst).lands_iff hFinal.registry.isAddress

/-- A member of something that is itself a member: the second fragment stands behind the
first, and nothing on the page has both for an id. -/
theorem not_lands_nested_member :
    ∃ ix s, ((empty .fresh true).ingest
        [.bare "member" "a" "a" none, .bare "member" "a.b" "b" (some "a")]).finalize = .ok ix ∧
      firstNamed? ix.retained "a.b" = some s ∧ ¬ ix.registry.Lands "a.b" s := by
  have hRun : (((empty .fresh true).ingest [.bare "member" "a" "a" none,
        .bare "member" "a.b" "b" (some "a")]).finalize.toOption.bind fun ix =>
      (firstNamed? ix.retained "a.b").map fun s => (ix.registry.urlFor "a.b", s.id)) =
        some (some "global.html#a#b", some "b") := by
    decide +kernel
  obtain ⟨ix, hFinalize, hNamed⟩ := Option.bind_eq_some_iff.1 hRun
  obtain ⟨s, hFirst, hEq⟩ := Option.map_eq_some_iff.1 hNamed
  obtain ⟨hUrl, hId⟩ := Prod.mk.inj hEq
  refine ⟨ix, s, eq_ok_of_toOption hFinalize, hFirst, ?_⟩
  rw [LinkRegistry.Lands.iff_of_urlFor hUrl, hId]
  exact fun hLands => absurd (hLands.1 (by decide)) (by decide)

end SymbolIndex

end DocSite

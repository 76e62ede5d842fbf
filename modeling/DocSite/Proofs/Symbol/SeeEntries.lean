import DocSite.Proofs.Link.DirectLinks
import DocSite.Proofs.Symbol.Finished
import DocSite.Proofs.Symbol.OwnPages

/-! See entries. An entry that is a hash and a place is kept as an inline link, which is written
before the symbol has an address and read after all symbols have theirs. The longname of the
symbol stands in it as it is, with whatever signs of markup and hashes it has; the last hash of
the target is the one of the entry, so the link leads to the place on the page of the symbol. -/

namespace DocSite

/-! ### Entries -/

namespace Symbol

/-- Whether a see entry is a hash with a word behind it. -/
def IsLocalEntry (entry : String) : Prop :=
  ∃ c cs, entry.toList = '#' :: c :: cs ∧ Text.isBlank c = false

/-- A see entry for a place: a hash and the place, and white space if anything follows. -/
structure IsPlaceEntry (place entry : String) : Prop where
  place_ne : place ≠ ""
  no_blank : ∀ c ∈ place.toList, Text.isBlank c = false
  hash_not_mem : '#' ∉ place.toList
  bar_not_mem : '|' ∉ place.toList
  brace_not_mem : '\x7d' ∉ place.toList
  exists_rest : ∃ rest : String, entry = "#" ++ place ++ rest ∧
    ∀ c ∈ rest.toList.head?, Text.isBlank c = true

theorem seeEntry_of_not_local {entry : String} (h : ¬ IsLocalEntry entry)
    (longname : Option String) : seeEntry longname entry = entry := by
  unfold seeEntry
  split
  next c cs _ hEntry =>
    split_ifs with hBlank
    · rfl
    · exact absurd ⟨c, cs, hEntry, by simpa using hBlank⟩ h
  next => rfl

theorem seeEntry_of_place {place entry : String} (h : IsPlaceEntry place entry)
    (longname : String) : seeEntry (some longname) entry =
      "\x7b@link " ++ longname ++ "#" ++ place ++ "|" ++ place ++ "\x7d" := by
  obtain ⟨rest, rfl, hRest⟩ := h.exists_rest
  obtain ⟨c, cs, hPlace⟩ :=
    List.exists_cons_of_ne_nil (l := place.toList) (by simpa using h.place_ne)
  have hFirst : Text.isBlank c = false := h.no_blank c (by simp [hPlace])
  have hEntry : ("#" ++ place ++ rest).toList = '#' :: c :: (cs ++ rest.toList) := by
    simp [hPlace]
  have hWord : Text.firstWord (c :: (cs ++ rest.toList)) = place.toList := by
    rw [Text.firstWord, Text.trimStart, List.dropWhile_cons_of_neg (by simp [hFirst]),
      ← List.cons_append, ← hPlace]
    exact InlineLink.takeWhile_append_of_head (by simpa using h.no_blank) (by simpa using hRest)
  simp only [seeEntry, hEntry, hFirst, Bool.false_eq_true, if_false, hWord, String.ofList_toList]

/-- Whether links can name a longname: it does not begin with white space, and has none of the
signs that end a target. -/
structure IsLinkable (longname : String) : Prop where
  head : ∀ c ∈ longname.toList.head?, Text.isBlank c = false
  bar_not_mem : '|' ∉ longname.toList
  brace_not_mem : '\x7d' ∉ longname.toList

end Symbol

/-! ### Links to a place -/

namespace WrittenLink

/-- A clear link that is none to a tutorial is read as the link to its target. -/
theorem resolveLinks_source {l : WrittenLink} (h : l.IsClear) (hTag : l.tag ≠ .tutorial)
    (r : LinkRegistry) : r.resolveLinks l.source = .ok (r.linkTarget l.target l.label) := by
  have hTarget := congrArg Prod.fst (splitBody_body h)
  have hText := getD_shownText? h
  rw [InlineLink.resolveLinks_of_source r (l.isWritten_toInline h) l.toList_source,
    InlineLink.html, plain_toInline]
  refine congrArg Except.ok ?_
  simp only [InlineLink.plainHtml, hTarget, hText, label]
  cases hKind : l.tag with
  | tutorial => exact absurd hKind hTag
  | _ => rfl

/-- The link to a place on the page of a longname. -/
def toPlace (longname place : String) : WrittenLink :=
  ⟨.link, " ", longname ++ "#" ++ place, .afterBar place⟩

theorem isClear_toPlace {longname place entry : String} (hLongname : Symbol.IsLinkable longname)
    (hPlace : Symbol.IsPlaceEntry place entry) : (toPlace longname place).IsClear where
  blanks_ne := (by decide : " " ≠ "")
  isBlank := by simp [toPlace]
  target_ne hEmpty := by
    have hChars := congrArg String.toList hEmpty
    simp [toPlace] at hChars
  isTrimmed := by
    have hTrimmed := Text.isTrimmed_of_no_blank hPlace.no_blank
    constructor
    · intro c hc
      cases hList : longname.toList with
      | nil =>
        obtain rfl : '#' = c := by simpa [toPlace, hList] using hc
        decide
      | cons d ds => exact hLongname.head c (by simpa [toPlace, hList] using hc)
    · intro c hc
      refine hTrimmed.getLast c ?_
      rw [toPlace, String.toList_append] at hc
      rwa [List.getLast?_append_of_ne_nil _ (by simpa using hPlace.place_ne)] at hc
  bar_not_mem := by simp [toPlace, hLongname.bar_not_mem, hPlace.bar_not_mem]
  brace_not_mem := by simp [toPlace, hLongname.brace_not_mem, hPlace.brace_not_mem]
  fits := ⟨hPlace.place_ne, Text.isTrimmed_of_no_blank hPlace.no_blank, hPlace.brace_not_mem⟩

/-- What is written into a see list is the link, once it is escaped. -/
theorem escape_toPlace (longname place : String) :
    Text.escape ("\x7b@link " ++ longname ++ "#" ++ place ++ "|" ++ place ++ "\x7d") =
      (toPlace longname place).source := by
  have hSigns : ∀ signs ∈ ["\x7b@link ", "#", "|", "\x7d"], Text.escape signs = signs := by decide
  simp only [List.mem_cons, List.not_mem_nil, or_false, forall_eq_or_imp, forall_eq] at hSigns
  obtain ⟨hOpening, hHash, hBar, hClosing⟩ := hSigns
  simp only [source, toPlace, Text.escape_append, hOpening, hHash, hBar, hClosing,
    String.append_assoc]
  rfl

end WrittenLink

theorem LinkRegistry.linkTarget_toPlace {r : LinkRegistry} {longname place url : String}
    (hUrl : r.urlFor longname = some url) (hNone : r.urlFor (longname ++ "#" ++ place) = none)
    (hPlace : place ≠ "") (hHash : '#' ∉ place.toList) (label : Label) :
    r.linkTarget (longname ++ "#" ++ place) label =
      anchor ((splitFragment url).1 ++ "#" ++ place) none label := by
  have hInto : r.PointsInto (longname ++ "#" ++ place) longname place :=
    ⟨hNone, rfl, hHash, by rw [hUrl, Option.isSome_some]⟩
  rw [linkTarget_of_pointsInto hInto, linkTo, targetUrl?, hUrl, Option.some_or]
  simp only [withFragment]

/-! ### Finished indexes -/

/-- How an entry of the see list is shown: one that is no hash with a word behind it as it is,
and one for a place as a link that leads to it on the page of the longname, unless the target
of the link is registered itself. -/
structure Symbol.ShowsEntry (r : LinkRegistry) (longname? : Option String)
    (entry shown : String) : Prop where
  kept : ¬ IsLocalEntry entry → shown = entry
  linked : ∀ longname ∈ longname?, IsLinkable longname → ∀ place, IsPlaceEntry place entry →
    r.urlFor (longname ++ "#" ++ place) = none →
      ∃ url, r.urlFor longname = some url ∧ r.resolveLinks (Text.escape shown) =
        .ok (anchor ((splitFragment url).1 ++ "#" ++ place) none (.plain place))

theorem Symbol.showsEntry_seeEntry {r : LinkRegistry} {longname? : Option String}
    (hLinked : ∀ longname, longname? = some longname → (r.urlFor longname).isSome)
    (entry : String) : ShowsEntry r longname? entry (seeEntry longname? entry) where
  kept h := seeEntry_of_not_local h longname?
  linked := by
    rintro longname rfl hLongname place hPlace hNone
    obtain ⟨url, hUrl⟩ := Option.isSome_iff_exists.1 (hLinked longname rfl)
    refine ⟨url, hUrl, ?_⟩
    have hClear := WrittenLink.isClear_toPlace hLongname hPlace
    rw [seeEntry_of_place hPlace, WrittenLink.escape_toPlace,
      WrittenLink.resolveLinks_source hClear (by decide : InlineTag.link ≠ .tutorial)]
    exact congrArg Except.ok
      (LinkRegistry.linkTarget_toPlace hUrl hNone hPlace.place_ne hPlace.hash_not_mem _)

namespace SymbolIndex

variable {r : LinkRegistry} {registersSources : Bool} {ds : List Doclet} {ix : SymbolIndex}

theorem see_of_mem_ingest {s : Symbol} (h : s ∈ ((empty r registersSources).ingest ds).retained) :
    s.see = (s.doclet.see.getD []).map (Symbol.seeEntry s.longname) := by
  obtain ⟨place, hPlace, rfl⟩ := List.getElem_of_mem h
  obtain ⟨earlier, d, later, -, -, -, hEq⟩ :=
    exists_of_symbolAt?_ingest (Nat.zero_le place) (List.getElem?_eq_getElem hPlace)
  rw [hEq]
  rfl

theorem see_of_mem_finalize (h : ((empty r registersSources).ingest ds).finalize = .ok ix)
    {s : Symbol} (hs : s ∈ ix.retained) :
    s.see = (s.doclet.see.getD []).map (Symbol.seeEntry s.longname) := by
  obtain ⟨place, hPlace, rfl⟩ := List.getElem_of_mem hs
  obtain ⟨t, hAt, hEq⟩ := exists_of_symbolAt?_finalize h (List.getElem?_eq_getElem hPlace)
  have hSee := see_of_mem_ingest (List.mem_of_getElem? hAt)
  rw [hEq]
  exact hSee

/-- When any doclets have been indexed, the index can be finished, and then every symbol has an
entry for each one of its see list, in their order. An entry for a place leads to it on the
page of the symbol, and one that is no hash with a word behind it is kept. -/
theorem see_entries_lead_home (tutorials : List String) (registersSources : Bool)
    (ds : List Doclet) :
    ∃ ix, ((empty (.withTutorials tutorials) registersSources).ingest ds).finalize = .ok ix ∧
      ix.doclets = ds.filter Doclet.isRetained ∧
      ∀ s ∈ ix.retained, List.Forall₂ (Symbol.ShowsEntry ix.registry s.longname)
        (s.doclet.see.getD []) s.see := by
  obtain ⟨ix, hFinalize⟩ :=
    ((isOpen_empty (.withTutorials tutorials) registersSources).ingest ds).exists_finalize
  refine ⟨ix, hFinalize, (finishes_of_finalize hFinalize).doclets_eq.trans (doclets_ingest _ _ ds),
    fun s hs => ?_⟩
  have hLinked := (hasPages_finalize hFinalize).2 s hs
  rw [see_of_mem_finalize hFinalize hs, List.forall₂_map_right_iff]
  exact List.forall₂_same.2 fun entry _ => Symbol.showsEntry_seeEntry hLinked entry

/-- A class and a member on its page, whose longname has a sign of markup, spaces and a hash and
whose see list has a place and a longname. -/
def linkedMember : List Doclet :=
  [.bare "class" "A" "A" none,
    { Doclet.bare "member" "A#b & c" "b & c" (some "A") with see := some ["#run now", "A"] }]

/-- The place is one on the page of the class, not one below the fragment of the member. -/
theorem see_entries_lead_home_linkedMember :
    Symbol.IsLinkable "A#b & c" ∧ Symbol.IsPlaceEntry "run" "#run now" ∧
    ∃ ix, ((empty (.withTutorials []) true).ingest linkedMember).finalize = .ok ix ∧
      ix.registry.urlFor "A#b & c" = some "A.html#b&c" ∧
      ix.registry.urlFor "A#b & c#run" = none ∧
      ∃ s ∈ ix.retained, s.longname = some "A#b & c" ∧
        s.see = ["\x7b@link A#b & c#run|run\x7d", "A"] ∧
        ix.registry.resolveLinks (Text.escape "\x7b@link A#b & c#run|run\x7d") =
          .ok "<a href=\"A.html#run\">run</a>" := by
  have hLongname : Symbol.IsLinkable "A#b & c" := by
    refine ⟨?_, by decide, by decide⟩
    rintro c hc
    obtain rfl : 'A' = c := by simpa using hc
    decide
  have hEntry : Symbol.IsPlaceEntry "run" "#run now" := by
    refine ⟨by decide, List.forall_iff_forall_mem.1 (by decide), by decide, by decide, by decide,
      " now", by decide, ?_⟩
    rintro c hc
    obtain rfl : ' ' = c := by simpa using hc
    decide
  obtain ⟨ix, hFinalize, -, hSee⟩ := see_entries_lead_home [] true linkedMember
  have hUrls : (((empty (.withTutorials []) true).ingest linkedMember).finalize.toOption.map
      fun ix => (ix.registry.urlFor "A#b & c", ix.registry.urlFor "A#b & c#run")) =
      some (some "A.html#b&c", none) := by
    decide +kernel
  have hFound : (((empty (.withTutorials []) true).ingest linkedMember).finalize.toOption.bind
      fun ix => (ix.symbolAt? 1).map fun s => (s.longname, s.doclet.see, s.see)) =
      some (some "A#b & c", some ["#run now", "A"],
        ["\x7b@link A#b & c#run|run\x7d", "A"]) := by
    decide +kernel
  rw [hFinalize] at hUrls hFound
  obtain ⟨hUrl, hNone⟩ := Prod.mk.inj (Option.some.inj hUrls)
  obtain ⟨s, hAt, hFields⟩ := Option.map_eq_some_iff.1 hFound
  obtain ⟨hName, hSees⟩ := Prod.mk.inj hFields
  obtain ⟨hGiven, hShown⟩ := Prod.mk.inj hSees
  have hs : s ∈ ix.retained := List.mem_of_getElem? hAt
  have hAll := hSee s hs
  rw [hGiven, hShown, hName] at hAll
  obtain ⟨hFirst, -⟩ := List.forall₂_cons.1 hAll
  obtain ⟨url, hUrl', hLink⟩ := hFirst.linked "A#b & c" rfl hLongname "run" hEntry hNone
  obtain rfl := Option.some.inj (hUrl.symm.trans hUrl')
  exact ⟨hLongname, hEntry, ix, hFinalize, hUrl, hNone, s, hs, hName, hShown, hLink⟩

end SymbolIndex

end DocSite

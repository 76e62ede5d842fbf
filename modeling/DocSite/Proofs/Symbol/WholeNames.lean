import DocSite.Proofs.Files.Keeping
import DocSite.Proofs.Link.Address
import DocSite.Proofs.Symbol.Finished
import DocSite.Proofs.Symbol.SourceFiles

/-! Addresses that can be encoded. The files and fragments of a registry are made of the names of
symbols and of signs of ASCII, and UTF-8 has bytes for all of these unless a lone surrogate stands
in a name. So the addresses of doclets whose names are texts of Unicode can always be encoded,
and an index of such doclets can always be finished. -/

namespace DocSite

/-! ### Whole texts -/

namespace Text

theorem isWhole_iff {s : String} : isWhole s = true ↔ ∀ c ∈ s.toList, isLone c = false := by
  simp [isWhole]

/-- A text is whole if its characters are those of a whole text and of others that are none of a
few. -/
theorem isWhole_of_subset {s : String} {cs : List Char} (signs : List Char)
    (hSigns : isWhole (.ofList signs) = true) (h : isWhole s = true)
    (hSubset : ∀ c ∈ cs, c ∈ s.toList ∨ c ∈ signs) : isWhole (.ofList cs) = true := by
  rw [isWhole_iff] at h hSigns ⊢
  rw [String.toList_ofList] at hSigns ⊢
  exact fun c hc => (hSubset c hc).elim (h c) (hSigns c)

theorem isWhole_withoutBlanks {s : String} (h : isWhole s = true) :
    isWhole (withoutBlanks s) = true :=
  isWhole_of_subset [] (by decide) h fun _ hc => .inl (List.mem_filter.1 hc).1

theorem exists_encode_utf8_iff {s : String} :
    (∃ bytes, Encoding.utf8.encode s.toList = .ok bytes) ↔ isWhole s = true := by
  rw [isWhole_iff, Encoding.encode]
  cases hFind : s.toList.find? Encoding.utf8.lacks with
  | none => exact iff_of_true ⟨_, rfl⟩ (by simpa [Encoding.lacks] using hFind)
  | some c =>
    refine iff_of_false (by simp) fun hAll => ?_
    have hLone := List.find?_some hFind
    rw [Encoding.lacks, hAll c (List.mem_of_find?_eq_some hFind)] at hLone
    cases hLone

end Text

theorem isWhole_underscored (base : String) (k : ℕ) :
    Text.isWhole (underscored base k) = Text.isWhole base := by
  induction k with
  | zero => rfl
  | succ k ih =>
    have hSign : Text.isWhole "_" = true := by decide
    rw [underscored, Text.isWhole_append, ih, hSign, Bool.and_true]

theorem isWhole_freeName {taken : List String} {base : String} (h : Text.isWhole base = true) :
    Text.isWhole (freeName taken base) = true := by
  obtain ⟨k, -, hEq, -⟩ := freeName_eq_underscored taken base
  rw [hEq, isWhole_underscored, h]

namespace FileName

theorem mem_of_mem_hyphenNamespace {c : Char} {cs : List Char} (h : c ∈ hyphenNamespace cs) :
    c ∈ cs ∨ c = '-' := by
  unfold hyphenNamespace at h
  dsimp only at h
  split at h
  next rest hRest =>
    split_ifs at h
    · rcases List.mem_append.1 h with hKind | hRight
      · exact .inl ((List.takeWhile_sublist _).subset hKind)
      · rcases List.mem_cons.1 hRight with rfl | hRest'
        · exact .inr rfl
        · refine .inl (List.mem_of_mem_drop (i := (cs.takeWhile (· != ':')).length) ?_)
          rw [hRest]
          exact List.mem_cons_of_mem _ hRest'
    · exact .inl h
  next => exact .inl h

theorem mem_of_mem_guardLead {c : Char} {cs : List Char} (h : c ∈ guardLead cs) :
    c ∈ cs ∨ c = '-' ∨ c = '_' := by
  unfold guardLead at h
  split at h
  · simp only [List.mem_cons, List.not_mem_nil, or_false] at h
    exact .inr h
  · rcases List.mem_cons.1 h with rfl | hc
    · exact .inr (.inl rfl)
    · exact .inl hc
  · exact .inl h

theorem safeChar_cases (c : Char) : safeChar c = c ∨ safeChar c = '-' ∨ safeChar c = '_' := by
  unfold safeChar
  split_ifs <;> simp

/-- The file name that a whole name asks for is whole. -/
theorem isWhole_wanted {name : String} (h : Text.isWhole name = true) :
    Text.isWhole (wanted name) = true := by
  refine Text.isWhole_of_subset ['-', '_'] (by decide) h fun c hc => ?_
  rcases mem_of_mem_guardLead hc with hc | hSign
  · obtain ⟨d, hd, rfl⟩ := List.mem_map.1 (mem_of_mem_dropVariation (mem_of_mem_dropLead hc))
    rcases safeChar_cases d with hSame | hSign
    · rw [hSame]
      exact (mem_of_mem_hyphenNamespace hd).imp_right fun hHyphen => by simp [hHyphen]
    · exact .inr (by simpa using hSign)
  · exact .inr (by simpa using hSign)

end FileName

/-! ### Registries -/

namespace LinkRegistry

variable {r : LinkRegistry}

/-- All texts that addresses are encoded from are whole. -/
def IsWhole (r : LinkRegistry) : Prop := ∀ text ∈ r.addressTexts, Text.isWhole text = true

theorem checkAddresses_eq_ok_iff : r.checkAddresses = .ok () ↔ r.IsWhole := by
  rw [checkAddresses, forM_eq_ok_iff]
  refine forall₂_congr fun text _ => ?_
  rw [← Text.exists_encode_utf8_iff]
  cases Text.Encoding.utf8.encode text.toList with
  | ok bytes => exact iff_of_true rfl ⟨bytes, rfl⟩
  | error cause => exact iff_of_false (fun h => nomatch h) fun ⟨_, h⟩ => nomatch h

theorem isWhole_iff : r.IsWhole ↔
    (∀ name ∈ r.files.vals, Text.isWhole (FileName.wanted name) = true) ∧
      ∀ fragment ∈ r.fragments.vals, Text.isWhole fragment = true := by
  simp only [IsWhole, addressTexts, List.mem_append, List.mem_map, or_imp, forall_and,
    forall_exists_index, and_imp, forall_apply_eq_imp_iff₂]

instance (r : LinkRegistry) : Decidable r.IsWhole :=
  decidable_of_iff (r.addressTexts.all Text.isWhole = true) List.all_eq_true

theorem isWhole_fresh : fresh.IsWhole := by decide

theorem IsWhole.congr {r' : LinkRegistry} (h : r.IsWhole) (hFiles : r'.files = r.files)
    (hFragments : r'.fragments = r.fragments) : r'.IsWhole := by
  rw [isWhole_iff, hFiles, hFragments]
  exact isWhole_iff.1 h

theorem IsWhole.register (h : r.IsWhole) {name : String} (hName : Text.isWhole name = true)
    (url? : Option String) : (r.register name url?).2.IsWhole := by
  obtain ⟨_, _, hEq⟩ | ⟨_, _, _, hEq⟩ | ⟨_, _, hEq⟩ := r.register_cases name url? <;> rw [hEq]
  · exact h
  · exact h.congr rfl rfl
  · obtain ⟨hFiles, hFragments⟩ := isWhole_iff.1 h
    refine isWhole_iff.2 ⟨fun other hOther => ?_, hFragments⟩
    rcases Dict.mem_vals_put hOther with rfl | hOld
    · exact FileName.isWhole_wanted hName
    · exact hFiles other hOld

theorem IsWhole.registerAll (h : r.IsWhole) {names : List String}
    (hNames : ∀ name ∈ names, Text.isWhole name = true) :
    (names.foldl (fun r name => (r.register name none).2) r).IsWhole := by
  induction names generalizing r with
  | nil => exact h
  | cons name names ih =>
    obtain ⟨hName, hRest⟩ := List.forall_mem_cons.1 hNames
    exact ih (h.register hName none) hRest

theorem IsWhole.reserve (h : r.IsWhole) (longname : String) {fragment : String}
    (hFragment : Text.isWhole fragment = true) : (r.reserve longname fragment).IsWhole := by
  unfold LinkRegistry.reserve
  split_ifs
  · exact h
  · obtain ⟨hFiles, hFragments⟩ := isWhole_iff.1 h
    refine isWhole_iff.2 ⟨hFiles, fun other hOther => ?_⟩
    rcases Dict.mem_vals_put hOther with rfl | hOld
    · exact hFragment
    · exact hFragments other hOld

theorem fragments_issueFragment (r : LinkRegistry) (placement : Placement) (page : String)
    (s : Symbol) :
    (r.issueFragment placement page s).2.fragments = r.fragments := by
  unfold issueFragment
  split <;> rfl

theorem isWhole_issueFragment (r : LinkRegistry) (placement : Placement) (page : String)
    {s : Symbol} (h : Text.isWhole s.linkName = true) :
    Text.isWhole (r.issueFragment placement page s).1 = true := by
  unfold issueFragment
  split_ifs
  · exact isWhole_freeName (Text.isWhole_withoutBlanks h)
  · rfl

/-- The link of a symbol with whole names keeps a registry whole. -/
theorem IsWhole.createLinkFor (h : r.IsWhole) {s : Symbol} {longname : String}
    (hLongname : Text.isWhole longname = true)
    (hMemberof : ∀ name ∈ s.memberof, Text.isWhole name = true)
    (hName : Text.isWhole s.linkName = true) (needsFile : Bool) :
    (r.createLinkFor s longname needsFile).2.IsWhole := by
  cases hUrl : r.urlFor longname with
  | some url => rwa [createLinkFor_of_urlFor r hUrl]
  | none =>
    have hOwner : Text.isWhole (Placement.ofSymbol s longname needsFile).owner = true := by
      unfold Placement.ofSymbol
      split_ifs
      · exact hLongname
      · cases hMember : s.memberof with
        | none => exact hLongname
        | some name => exact hMemberof name hMember
      · cases hMember : s.memberof with
        | none => exact (by decide : Text.isWhole globalName = true)
        | some name => exact hMemberof name hMember
    rcases hPage : r.register (Placement.ofSymbol s longname needsFile).owner none with ⟨page, r₁⟩
    rcases hFragment : r₁.issueFragment (Placement.ofSymbol s longname needsFile) page s with
      ⟨fragment, r₂⟩
    have h₁ := h.register hOwner none
    rw [hPage] at h₁
    have hFiles := r₁.files_issueFragment (Placement.ofSymbol s longname needsFile) page s
    have hFragments := r₁.fragments_issueFragment (Placement.ofSymbol s longname needsFile) page s
    have hText := r₁.isWhole_issueFragment (Placement.ofSymbol s longname needsFile) page hName
    rw [hFragment] at hFiles hFragments hText
    have h₂ := h₁.congr hFiles hFragments
    rw [r.createLinkFor_eq hUrl hPage hFragment]
    exact (h₂.reserve longname hText).register hLongname _

end LinkRegistry

/-! ### Symbols -/

/-- No lone surrogate stands in the names of a doclet, nor in the path of its source file. -/
structure Doclet.IsWhole (d : Doclet) : Prop where
  longname : ∀ name ∈ d.longname, Text.isWhole name = true
  memberof : ∀ name ∈ d.memberof, Text.isWhole name = true
  name : ∀ name ∈ d.name, Text.isWhole name = true
  variation : ∀ text ∈ d.variation, Text.isWhole text = true
  sourcePath : ∀ path ∈ d.sourcePath, Text.isWhole path = true

theorem Longname.isWhole_stripQuotes {name : String} (h : Text.isWhole name = true) :
    Text.isWhole (stripQuotes name) = true := by
  unfold stripQuotes
  split
  next rest hName =>
    split
    next c inner hRest =>
      refine Text.isWhole_of_subset [] (by decide) h fun d hd => .inl ?_
      rw [hName, ← List.reverse_reverse rest, hRest]
      exact List.mem_cons_of_mem _
        (List.mem_reverse.2 (List.mem_cons_of_mem _ (List.mem_reverse.1 hd)))
    next => exact h
  next => exact h

namespace Symbol

/-- The names from which a symbol gets its address are whole. -/
structure IsWhole (s : Symbol) : Prop where
  longname : ∀ name ∈ s.longname, Text.isWhole name = true
  memberof : ∀ name ∈ s.memberof, Text.isWhole name = true
  name : ∀ name ∈ s.name, Text.isWhole name = true
  variation : ∀ text ∈ s.doclet.variation, Text.isWhole text = true

theorem IsWhole.linkName {s : Symbol} (h : s.IsWhole) : Text.isWhole s.linkName = true := by
  have hLead :
      Text.isWhole (if namespaceKinds.contains s.kind then s.kind ++ ":" else "") = true := by
    split_ifs with hKind
    · have hKinds : ∀ kind ∈ namespaceKinds, Text.isWhole (kind ++ ":") = true := by decide
      exact hKinds _ (List.contains_iff_mem.1 hKind)
    · rfl
  have hName : Text.isWhole (s.name.getD "") = true := by
    cases hSome : s.name with
    | none => rfl
    | some name => exact h.name name hSome
  have hVariation : Text.isWhole (s.doclet.variation.getD "") = true := by
    cases hSome : s.doclet.variation with
    | none => rfl
    | some text => exact h.variation text hSome
  have hDot : Text.isWhole "." = true := by decide
  have hTilde : Text.isWhole "~" = true := by decide
  unfold Symbol.linkName
  dsimp only
  split <;> simp only [Text.isWhole_append, hLead, hName, hVariation, hDot, hTilde, Bool.and_self]

end Symbol

theorem Symbol.isWhole_ofDoclet {d : Doclet} (h : d.IsWhole) : (ofDoclet d).IsWhole := by
  refine ⟨h.longname, h.memberof, fun name hName => ?_, h.variation⟩
  unfold ofDoclet at hName
  dsimp only at hName
  split_ifs at hName
  · obtain ⟨own, hSome, rfl⟩ := Option.map_eq_some_iff.1 hName
    exact Longname.isWhole_stripQuotes (h.name own hSome)
  · exact h.name name hName

namespace SymbolIndex
variable {ix : SymbolIndex}

/-- The link of a symbol with whole names keeps the registry whole. -/
theorem Linking.isWhole_link {l : Linking} (h : l.registry.IsWhole) (needsFile : List String)
    {s : Symbol} (hs : s.IsWhole) :
    ∃ s' l', l.link needsFile s = .ok (s', l') ∧ l'.registry.IsWhole := by
  cases hLongname : s.longname with
  | none => exact ⟨s, l, l.link_of_none needsFile hLongname, h⟩
  | some longname =>
    obtain ⟨url, r, hCreate, -, hLink⟩ := l.link_of_some needsFile hLongname
    have hLinked := h.createLinkFor (hs.longname longname hLongname) hs.memberof hs.linkName
      (needsFile.contains longname)
    rw [hCreate] at hLinked
    rcases assignId_cases { l with registry := r } s longname url with
      ⟨_, _, _, _, hEq⟩ | ⟨_, hEq | ⟨candidate, hEq⟩⟩
    · exact ⟨_, _, hLink hEq, hLinked⟩
    · exact ⟨_, _, hLink hEq, hLinked⟩
    · exact ⟨_, _, hLink hEq, hLinked.congr rfl rfl⟩

theorem isWhole_requiredName {name : String} (h : Text.isWhole name = true) :
    Text.isWhole (requiredName name) = true := by
  have hOpen : Text.isWhole "require(\"" = true := by decide
  have hClose : Text.isWhole "\")" = true := by decide
  unfold requiredName
  split
  next rest hRest =>
    have hSubset : Text.isWhole (.ofList rest) = true := by
      refine Text.isWhole_of_subset [] (by decide) h fun c hc => .inl ?_
      rw [← List.isPrefixOf?_eq_some_iff_append_eq.1 hRest]
      exact List.mem_append_right _ hc
    simp only [Text.isWhole_append, hOpen, hClose, hSubset, Bool.and_self]
  next => simp only [Text.isWhole_append, h, hClose, Bool.and_self]

/-- The names of a symbol stay whole while its index is finished. -/
theorem isWhole_finished {s : Symbol} (h : s.IsWhole) (ix : SymbolIndex) (place : ℕ) :
    (ix.finished place s).IsWhole := by
  refine { h with name := fun name hName => ?_ }
  unfold finished at hName
  dsimp only at hName
  split_ifs at hName
  · obtain ⟨own, hSome, rfl⟩ := Option.map_eq_some_iff.1 hName
    exact isWhole_requiredName (h.name own hSome)
  · exact h.name name hName

theorem isWhole_short {lead path : String} (h : Text.isWhole path = true) :
    Text.isWhole (SourcePath.short lead path) = true := by
  refine Text.isWhole_of_subset ['/'] (by decide) h fun c hc => ?_
  have hc := List.mem_of_mem_drop hc
  rw [SourcePath.slashed, String.toList_ofList] at hc
  obtain ⟨d, hd, rfl⟩ := List.mem_map.1 hc
  split_ifs
  · exact .inr (by simp)
  · exact .inl hd

section Finalize
variable {r : LinkRegistry} {registersSources : Bool} {ds : List Doclet}
  (hDoclets : ∀ d ∈ ds, d.IsWhole)
include hDoclets

/-- The symbols of doclets with whole names have whole names when they are linked. -/
theorem isWhole_of_mem_placed {s : Symbol} (hs : s ∈
    ((empty r registersSources).ingest ds).ready.retained.map fun s => { s with
      shortPath := s.sourcePath.bind fun path =>
        (((empty r registersSources).ingest ds).ready.shortPaths.get? path).join }) :
    s.IsWhole := by
  obtain ⟨t, ht, rfl⟩ := List.mem_map.1 hs
  obtain ⟨place, hPlace, rfl⟩ := List.getElem_of_mem ht
  have hReady := ((empty r registersSources).ingest ds).symbolAt?_ready place
  rw [symbolAt?, List.getElem?_eq_getElem hPlace, Option.map_some] at hReady
  obtain ⟨s₀, hAt, hEq⟩ := Option.map_eq_some_iff.1 hReady.symm
  have hMem := List.mem_of_getElem? hAt
  have hDoclet : s₀.doclet ∈ ds := by
    have hIn : s₀.doclet ∈ ((empty r registersSources).ingest ds).doclets :=
      List.mem_map_of_mem hMem
    rw [doclets_ingest] at hIn
    exact (List.mem_filter.1 hIn).1
  have hWhole := Symbol.isWhole_ofDoclet (hDoclets _ hDoclet)
  have hSymbol : s₀.IsWhole := by
    rw [eq_ofDoclet_of_mem_ingest hMem]
    exact { hWhole with }
  exact hEq ▸ isWhole_finished hSymbol _ place

theorem isWhole_of_mem_sourcePages
    (h : ((empty r registersSources).ingest ds).finalize = .ok ix) :
    ∀ shown ∈ ix.sourcePages, Text.isWhole shown = true := by
  intro shown hShown
  rw [sourcePages_of_finalize h] at hShown
  obtain ⟨path, hPath, rfl⟩ := List.mem_map.1 (List.mem_filter.1 hShown).1
  obtain ⟨d, hd, hSource⟩ := List.mem_filterMap.1 (List.mem_eraseDups.1 hPath)
  exact isWhole_short ((hDoclets d (List.mem_filter.1 hd).1).sourcePath path hSource)

/-- The addresses of doclets with whole names can be encoded. -/
theorem isWhole_finalize (hRegistry : r.IsWhole)
    (h : ((empty r registersSources).ingest ds).finalize = .ok ix) : ix.registry.IsWhole := by
  have hShown := isWhole_of_mem_sourcePages hDoclets h
  have hReady : ((empty r registersSources).ingest ds).ready.registry = r :=
    registry_ingest (empty r registersSources) ds
  have hStart : ((empty r registersSources).ingest ds).ready.registry.IsWhole := by
    rwa [hReady]
  obtain ⟨linked, l, hAll, hLinked⟩ := @Linking.linkAll_induct (fun l _ => l.registry.IsWhole) _ _
    (fun s hs l _ hWhole => Linking.isWhole_link hWhole _ (isWhole_of_mem_placed hDoclets hs))
    { registry := ((empty r registersSources).ingest ds).ready.registry } [] hStart
  have hSymbols : ((empty r registersSources).ingest ds).ready.linkSymbols = .ok
      { ((empty r registersSources).ingest ds).ready with
        retained := linked, registry := l.registry } := by
    simp only [linkSymbols]
    rw [hAll]
    rfl
  rw [finalize_eq, hSymbols] at h
  split_ifs at h
  obtain rfl := Except.ok.inj h
  unfold linkSources at hShown ⊢
  dsimp only at hShown ⊢
  split_ifs at hShown ⊢
  · exact hLinked.registerAll hShown
  · exact hLinked

end Finalize

/-! ### Finishing an index -/

/-- Doclets are taken as long as the index is not finished. -/
theorem IsOpen.addDoclet_all (h : ix.IsOpen) (doclets : List Doclet) :
    doclets.foldlM (fun ix d => (ix.addDoclet d).map Prod.snd) ix = .ok (ix.ingest doclets) := by
  induction doclets generalizing ix with
  | nil => rfl
  | cons d doclets ih =>
    have hAdd : (ix.addDoclet d).map Prod.snd = .ok (ix.add d).2 := by
      simp [addDoclet, h.not_finalized, Except.map]
    rw [List.foldlM_cons, hAdd, ingest_cons]
    exact ih (h.add d)

/-- An index over a fresh registry takes all doclets and can be finished, if its addresses can be
encoded, as those of doclets with whole names can. Nothing else keeps it from being finished. -/
structure FinishesFresh (registersSources : Bool) (doclets : List Doclet) (ix : SymbolIndex) :
    Prop where
  takes : doclets.foldlM (fun ix d => (ix.addDoclet d).map Prod.snd)
    (empty .fresh registersSources) = .ok ((empty .fresh registersSources).ingest doclets)
  finalize : ((empty .fresh registersSources).ingest doclets).finalize = .ok ix
  finish : ix.registry.IsWhole → ((empty .fresh registersSources).ingest doclets).finish = .ok ix
  address : ¬ ix.registry.IsWhole →
    ∃ cause, ((empty .fresh registersSources).ingest doclets).finish = .error (.address cause)
  isWhole : (∀ d ∈ doclets, d.IsWhole) → ix.registry.IsWhole

theorem finish_of_finalize {ix ix' : SymbolIndex} (h : ix.finalize = .ok ix') :
    ix.finish = (ix'.registry.checkAddresses.mapError .address).map fun _ => ix' := by
  rw [finish, h]
  change ((do ix'.registry.checkAddresses.mapError IndexError.address; return ix') :
    Except IndexError SymbolIndex) = _
  cases ix'.registry.checkAddresses <;> rfl

theorem exists_finishesFresh (registersSources : Bool) (doclets : List Doclet) :
    ∃ ix, FinishesFresh registersSources doclets ix := by
  have hOpen := isOpen_empty .fresh registersSources
  obtain ⟨ix, hFinalize⟩ := (hOpen.ingest doclets).exists_finalize
  have hFinish := finish_of_finalize hFinalize
  refine ⟨ix, hOpen.addDoclet_all doclets, hFinalize, fun hWhole => ?_, fun hNot => ?_,
    fun hDoclets => isWhole_finalize hDoclets LinkRegistry.isWhole_fresh hFinalize⟩
  · rw [hFinish, LinkRegistry.checkAddresses_eq_ok_iff.2 hWhole]
    rfl
  · cases hAddresses : ix.registry.checkAddresses with
    | ok _ => exact absurd (LinkRegistry.checkAddresses_eq_ok_iff.1 hAddresses) hNot
    | error cause =>
      rw [hAddresses] at hFinish
      exact ⟨cause, hFinish⟩

/-- The address of a member whose name is a lone surrogate cannot be encoded. -/
theorem finish_loneSurrogate :
    let name := String.singleton (Text.charOfCode 0xD800)
    (((SymbolIndex.empty .fresh true).ingest [.bare "member" name name none]).finish.map
      fun _ => ()) = .error (.address ⟨"utf-8", Text.charOfCode 0xD800⟩) := by
  decide +kernel

end SymbolIndex

end DocSite

import DocSite.Proofs.Link.Reserved
import DocSite.Proofs.Symbol.Retaining
import DocSite.Symbol.Finalize

/-! The pass that gives the symbols of an index their addresses and ids. Linking never
fails, since a link always registers an address, and it changes nothing of a symbol
but the id. What one link preserves therefore holds of the whole pass, and of the
finished index, if the pages of source files that are registered afterwards preserve it. -/

namespace DocSite

/-- A doclet that has no more than a kind, its names and perhaps what encloses it. -/
def Doclet.bare (kind longname name : String) (memberof : Option String) : Doclet where
  kind := kind
  longname := longname
  name := name
  memberof := memberof
  scope := none
  access := none
  variation := none
  version := none
  since := none
  undocumented := false
  ignored := false
  location := none
  examples := none
  see := none
  listens := none
  extra := []

theorem eq_ok_of_toOption {ε α : Type} {x : Except ε α} {a : α} (h : x.toOption = some a) :
    x = .ok a := by
  cases x with
  | error e => exact absurd h (by simp [Except.toOption])
  | ok b => rw [Option.some.inj h]

namespace SymbolIndex

namespace Linking

variable (l : Linking) (needsFile : List String)

/-! ### One symbol -/

/-- An answer that gives no id, or one that is new on the page of an address. -/
def IsFresh (url : String) (answer : Option String × Linking) : Prop :=
  answer = (none, l) ∨ ∃ candidate, answer =
    (some (l.registry.issueId url candidate).1,
      { l with registry := (l.registry.issueId url candidate).2 })

theorem isFresh_ite (url candidate : String) :
    l.IsFresh url (if candidate == "" then (none, l)
      else (some (l.registry.issueId url candidate).1,
        { l with registry := (l.registry.issueId url candidate).2 })) := by
  split
  · exact .inl rfl
  · exact .inr ⟨candidate, rfl⟩

/-- An id is either the fragment reserved for the longname, which is claimed by it, or it is
given out afresh if there is anything to make it from. -/
theorem assignId_cases (s : Symbol) (longname url : String) :
    (∃ fragment, l.registry.fragmentFor longname = some fragment ∧ longname ∉ l.claimed ∧
      (splitFragment url).2 ≠ "" ∧ l.assignId s longname url =
        (some fragment, { l with claimed := longname :: l.claimed })) ∨
    (l.registry.fragmentFor longname = none ∨ longname ∈ l.claimed ∨
        (splitFragment url).2 = "") ∧ l.IsFresh url (l.assignId s longname url) := by
  by_cases hFragment : (splitFragment url).2 = ""
  · refine .inr ⟨.inr (.inr hFragment), ?_⟩
    simpa [assignId, hFragment] using l.isFresh_ite url (s.name.getD "")
  · cases hReserved : l.registry.fragmentFor longname with
    | none =>
      refine .inr ⟨.inl rfl, ?_⟩
      simpa [assignId, hFragment, hReserved] using
        l.isFresh_ite url (Text.percentDecode (splitFragment url).2)
    | some fragment =>
      by_cases hClaimed : longname ∈ l.claimed
      · refine .inr ⟨.inr (.inl hClaimed), ?_⟩
        simpa [assignId, hFragment, hReserved, hClaimed] using l.isFresh_ite url
          (if fragment = "" then Text.percentDecode (splitFragment url).2 else fragment)
      · exact .inl ⟨fragment, rfl, hClaimed, hFragment,
          by simp [assignId, hFragment, hReserved, hClaimed]⟩

theorem link_of_none {s : Symbol} (h : s.longname = none) :
    l.link needsFile s = .ok (s, l) := by
  simp [link, h]

/-- The link of a symbol with a longname: first its address, then its id. -/
theorem link_of_some {s : Symbol} {longname : String} (h : s.longname = some longname) :
    ∃ url r, l.registry.createLinkFor s longname (needsFile.contains longname) = (url, r) ∧
      r.urlFor longname = some url ∧
      ∀ {id l'}, ({ l with registry := r } : Linking).assignId s longname url = (id, l') →
        l.link needsFile s = .ok ({ s with id }, l') := by
  have hUrl := LinkRegistry.urlFor_createLinkFor s longname (needsFile.contains longname) l.registry
  rcases hCreate : l.registry.createLinkFor s longname (needsFile.contains longname) with ⟨url, r⟩
  rw [hCreate] at hUrl
  refine ⟨url, r, rfl, hUrl, ?_⟩
  intro id l' hId
  simp only [link, h, LinkRegistry.createLink, hCreate, bind, Except.bind, hUrl, hId]
  rfl

/-- An id is given without a change to addresses and files. -/
theorem assignId_keeps_pages (s : Symbol) (longname url : String) :
    (∀ name, (l.assignId s longname url).2.registry.urlFor name = l.registry.urlFor name) ∧
    (l.assignId s longname url).2.registry.files = l.registry.files := by
  rcases l.assignId_cases s longname url with
    ⟨_, _, _, _, hEq⟩ | ⟨_, hEq | ⟨candidate, hEq⟩⟩ <;> rw [hEq]
  · exact ⟨fun _ => rfl, rfl⟩
  · exact ⟨fun _ => rfl, rfl⟩
  · exact ⟨l.registry.urlFor_issueId url candidate, rfl⟩

/-- The pages after the link of a symbol with a longname are those that its address needs. -/
theorem link_pages {s : Symbol} {longname : String} (h : s.longname = some longname) :
    ∃ id l', l.link needsFile s = .ok ({ s with id }, l') ∧
      (∀ name, l'.registry.urlFor name =
        (l.registry.createLinkFor s longname (needsFile.contains longname)).2.urlFor name) ∧
      l'.registry.files =
        (l.registry.createLinkFor s longname (needsFile.contains longname)).2.files := by
  obtain ⟨url, r, hCreate, -, hLink⟩ := l.link_of_some needsFile h
  obtain ⟨hUrls, hFiles⟩ := assignId_keeps_pages { l with registry := r } s longname url
  rcases hAssign : ({ l with registry := r } : Linking).assignId s longname url with ⟨id, l'⟩
  rw [hAssign] at hUrls hFiles
  refine ⟨id, l', hLink hAssign, ?_⟩
  rw [hCreate]
  exact ⟨hUrls, hFiles⟩

/-- The link of a symbol never fails: when the id is given, the longname has its address. The
pages of tutorials are not touched. -/
theorem exists_link (s : Symbol) :
    ∃ s' l', l.link needsFile s = .ok (s', l') ∧
      (∀ longname, s.longname = some longname → (l'.registry.urlFor longname).isSome) ∧
      l'.registry.tutorials = l.registry.tutorials := by
  cases hLongname : s.longname with
  | none => exact ⟨s, l, l.link_of_none needsFile hLongname, by simp, rfl⟩
  | some longname =>
    obtain ⟨url, r, hCreate, hUrl, hLink⟩ := l.link_of_some needsFile hLongname
    have hTutorials := l.registry.tutorials_createLinkFor s longname (needsFile.contains longname)
    rw [hCreate] at hTutorials
    have hSelf : ∀ {l' : Linking}, (∀ name, l'.registry.urlFor name = r.urlFor name) →
        ∀ name, some longname = some name → (l'.registry.urlFor name).isSome := by
      rintro l' hUrls name hName
      rw [hUrls, ← Option.some.inj hName, hUrl, Option.isSome_some]
    rcases assignId_cases { l with registry := r } s longname url with
      ⟨_, _, _, _, hEq⟩ | ⟨_, hEq | ⟨candidate, hEq⟩⟩
    · exact ⟨_, _, hLink hEq, hSelf fun _ => rfl, hTutorials⟩
    · exact ⟨_, _, hLink hEq, hSelf fun _ => rfl, hTutorials⟩
    · exact ⟨_, _, hLink hEq, hSelf fun _ => rfl, hTutorials⟩

/-! ### All symbols -/

/-- What the link of one symbol preserves holds after the links of a list, which do not fail. -/
theorem linkAll_induct {P : Linking → List Symbol → Prop} {needsFile : List String}
    {ss : List Symbol}
    (step : ∀ s ∈ ss, ∀ l done, P l done →
      ∃ s' l', l.link needsFile s = .ok (s', l') ∧ P l' (done ++ [s']))
    {l : Linking} {done : List Symbol} (start : P l done) :
    ∃ linked l', l.linkAll needsFile ss = .ok (linked, l') ∧ P l' (done ++ linked) := by
  induction ss generalizing l done with
  | nil => exact ⟨[], l, rfl, by simpa using start⟩
  | cons s ss ih =>
    obtain ⟨s', l₁, hLink, h₁⟩ := step s List.mem_cons_self l done start
    obtain ⟨linked, l₂, hAll, h₂⟩ := ih (fun t ht => step t (List.mem_cons_of_mem _ ht)) h₁
    refine ⟨s' :: linked, l₂, ?_, by simpa using h₂⟩
    simp [linkAll, hLink, hAll, bind, Except.bind, pure, Except.pure]

/-- What the registration of one page preserves holds after those of a list. -/
theorem register_induct {P : Linking → Prop}
    (page : ∀ l path, P l → P { l with registry := (l.registry.register path none).2 })
    {l : Linking} (start : P l) (paths : List String) :
    P { l with registry := paths.foldl (fun r path => (r.register path none).2) l.registry } := by
  induction paths generalizing l with
  | nil => exact start
  | cons path paths ih => exact ih (page l path start)

end Linking

/-! ### The index -/

/-- Whether an index can still be finished: no symbol has its id yet. -/
structure IsOpen (ix : SymbolIndex) : Prop where
  not_finalized : ix.finalized = false
  id_eq_none : ∀ s ∈ ix.retained, s.id = none

/-- What filing leaves alone. -/
structure Keeps (ix ix' : SymbolIndex) : Prop where
  registry_eq : ix'.registry = ix.registry
  finalized_eq : ix'.finalized = ix.finalized
  retained_eq : ix'.retained = ix.retained

variable (ix : SymbolIndex)

theorem keeps_withFiled (d : Doclet) : ix.Keeps (ix.withFiled d) := by
  obtain ⟨_, _, _, _, _, _, hFiled⟩ := ix.withFiled_eq d
  rw [hFiled]
  exact ⟨rfl, rfl, rfl⟩

variable {ix}

theorem Keeps.isOpen {ix' : SymbolIndex} (hKeeps : ix.Keeps ix') (h : ix.IsOpen) : ix'.IsOpen where
  not_finalized := hKeeps.finalized_eq.trans h.not_finalized
  id_eq_none s hs := h.id_eq_none s (hKeeps.retained_eq ▸ hs)

theorem IsOpen.retain (h : ix.IsOpen) {s : Symbol} (hId : s.id = none) : (ix.retain s).IsOpen := by
  constructor
  case not_finalized =>
    obtain ⟨s', shortPaths, -, hRetain⟩ := ix.retain_eq s
    rw [hRetain]
    exact h.not_finalized
  case id_eq_none =>
    intro t ht
    rw [retained_retain] at ht
    rcases List.mem_append.1 ht with ht | ht
    · exact h.id_eq_none t ht
    · rw [List.mem_singleton.1 ht]
      exact hId

theorem registry_retain (ix : SymbolIndex) (s : Symbol) :
    (ix.retain s).registry = ix.registry := by
  obtain ⟨s', shortPaths, -, hRetain⟩ := ix.retain_eq s
  rw [hRetain]

theorem IsOpen.add (h : ix.IsOpen) (d : Doclet) : (ix.add d).2.IsOpen := by
  cases hKept : d.isRetained with
  | true =>
    rw [add_of_isRetained _ hKept]
    exact ((ix.keeps_withFiled d).isOpen h).retain rfl
  | false =>
    rw [add_of_not_isRetained _ hKept]
    exact ⟨h.not_finalized, h.id_eq_none⟩

theorem registry_add (ix : SymbolIndex) (d : Doclet) : (ix.add d).2.registry = ix.registry := by
  cases hKept : d.isRetained with
  | true => rw [add_of_isRetained _ hKept, registry_retain, (ix.keeps_withFiled d).registry_eq]
  | false => rw [add_of_not_isRetained _ hKept]

theorem IsOpen.ingest (h : ix.IsOpen) (doclets : List Doclet) : (ix.ingest doclets).IsOpen := by
  induction doclets generalizing ix with
  | nil => exact h
  | cons d doclets ih => exact ih (h.add d)

theorem registry_ingest (ix : SymbolIndex) (doclets : List Doclet) :
    (ix.ingest doclets).registry = ix.registry := by
  induction doclets generalizing ix with
  | nil => rfl
  | cons d doclets ih => rw [ingest_cons, ih, registry_add]

theorem outputLongnames_retain (ix : SymbolIndex) (s : Symbol) :
    (ix.retain s).outputLongnames = ix.outputLongnames := by
  obtain ⟨s', shortPaths, -, hRetain⟩ := ix.retain_eq s
  rw [hRetain]

theorem nodup_outputLongnames_fileSymbol (h : ix.outputLongnames.Nodup) (s : Symbol)
    (c : Category) : (ix.fileSymbol s c).outputLongnames.Nodup := by
  rw [fileSymbol_eq]
  cases filedName? s with
  | none => exact h
  | some longname =>
    dsimp only
    split_ifs with hNew
    · have hNot : longname ∉ ix.outputLongnames := by simpa using (Bool.and_eq_true_iff.1 hNew).2
      rw [← List.concat_eq_append]
      exact (List.nodup_concat _ _).2 ⟨hNot, h⟩
    · exact h

theorem nodup_outputLongnames_withFiled (h : ix.outputLongnames.Nodup) (d : Doclet) :
    (ix.withFiled d).outputLongnames.Nodup := by
  unfold withFiled
  split_ifs
  · exact h
  · split
    · exact h
    · exact nodup_outputLongnames_fileSymbol h _ _

theorem nodup_outputLongnames_add (h : ix.outputLongnames.Nodup) (d : Doclet) :
    (ix.add d).2.outputLongnames.Nodup := by
  cases hKept : d.isRetained with
  | true =>
    rw [add_of_isRetained _ hKept, outputLongnames_retain]
    exact nodup_outputLongnames_withFiled h d
  | false =>
    rw [add_of_not_isRetained _ hKept]
    exact h

/-- No longname is recorded twice as having a page. -/
theorem nodup_outputLongnames_ingest (h : ix.outputLongnames.Nodup) (doclets : List Doclet) :
    (ix.ingest doclets).outputLongnames.Nodup := by
  induction doclets generalizing ix with
  | nil => exact h
  | cons d doclets ih => exact ih (nodup_outputLongnames_add h d)

theorem isOpen_empty (r : LinkRegistry) (registersSources : Bool) :
    (empty r registersSources).IsOpen := ⟨rfl, by simp [empty]⟩

theorem IsOpen.resolveExports (h : ix.IsOpen) : ix.resolveExports.IsOpen := by
  refine ⟨h.not_finalized, fun s hs => ?_⟩
  obtain ⟨place, hPlace, rfl⟩ := List.mem_mapIdx.1 hs
  have hId := h.id_eq_none _ (List.getElem_mem hPlace)
  dsimp only
  split <;> exact hId

theorem IsOpen.findShortPaths (h : ix.IsOpen) : ix.findShortPaths.IsOpen :=
  ⟨h.not_finalized, h.id_eq_none⟩

theorem IsOpen.addListeners (h : ix.IsOpen) : ix.addListeners.IsOpen := by
  refine ⟨h.not_finalized, fun s hs => ?_⟩
  obtain ⟨t, ht, rfl⟩ := List.mem_map.1 hs
  have hId := h.id_eq_none t ht
  split <;> exact hId

theorem retained_linkSources (ix : SymbolIndex) : ix.linkSources.retained = ix.retained := by
  unfold linkSources
  split <;> rfl

theorem outputLongnames_linkSources (ix : SymbolIndex) :
    ix.linkSources.outputLongnames = ix.outputLongnames := by
  unfold linkSources
  split <;> rfl

/-- The registration of source pages is a run of registrations under new names. -/
theorem registry_linkSources (ix : SymbolIndex) :
    ∃ paths : List String, ix.linkSources.registry =
      paths.foldl (fun r path => (r.register path none).2) ix.registry := by
  unfold linkSources
  split
  · exact ⟨ix.sourcePages, rfl⟩
  · exact ⟨[], rfl⟩

/-- What the link of one symbol preserves holds of all symbols when they are linked. -/
theorem IsOpen.linkSymbols_induct (h : ix.IsOpen) {P : Linking → List Symbol → Prop}
    (start : P { registry := ix.registry } [])
    (step : ∀ s, s.id = none → ∀ l done, P l done →
      ∃ s' l', l.link ix.outputLongnames s = .ok (s', l') ∧ P l' (done ++ [s'])) :
    ∃ linked l, ix.linkSymbols = .ok { ix with retained := linked, registry := l.registry } ∧
      P l linked := by
  let placed := ix.retained.map fun s =>
    { s with shortPath := s.sourcePath.bind fun path => (ix.shortPaths.get? path).join }
  have hPlaced : ∀ s ∈ placed, s.id = none := by
    intro s hs
    obtain ⟨t, ht, rfl⟩ := List.mem_map.1 hs
    exact h.id_eq_none t ht
  obtain ⟨linked, l, hAll, hLinked⟩ := Linking.linkAll_induct
    (fun s hs => step s (hPlaced s hs)) start
  refine ⟨linked, l, ?_, hLinked⟩
  simp only [linkSymbols]
  rw [hAll]
  rfl

/-- An index whose symbols are ready to be linked. -/
def ready (ix : SymbolIndex) : SymbolIndex :=
  { ix.resolveExports.findShortPaths.addListeners with
    navTree := NavTree.ofLongnames ix.outputLongnames }

theorem finalize_eq (ix : SymbolIndex) : ix.finalize =
    if ix.finalized then .error .finalizeTwice
    else match ix.ready.linkSymbols with
      | .error e => .error (.link e)
      | .ok ix => .ok { ix.linkSources with finalized := true } := rfl

theorem IsOpen.ready (h : ix.IsOpen) : ix.ready.IsOpen :=
  have hAll := h.resolveExports.findShortPaths.addListeners
  ⟨hAll.not_finalized, hAll.id_eq_none⟩

/-- An index that is open can be finished. What the link of one symbol preserves holds when
all symbols are linked, and what follows from it and is preserved by the registration of one
page holds of the symbols of the finished index. -/
theorem IsOpen.finalize_induct_pages (h : ix.IsOpen) {P Q : Linking → List Symbol → Prop}
    (start : P { registry := ix.registry } [])
    (step : ∀ s, s.id = none → ∀ l done, P l done →
      ∃ s' l', l.link ix.outputLongnames s = .ok (s', l') ∧ P l' (done ++ [s']))
    (linked : ∀ l done, P l done → Q l done)
    (page : ∀ l done path, Q l done →
      Q { l with registry := (l.registry.register path none).2 } done) :
    ∃ (ix' : SymbolIndex) (l : Linking), ix.finalize = .ok ix' ∧ Q l ix'.retained ∧
      ix'.outputLongnames = ix.outputLongnames ∧ ix'.registry = l.registry := by
  obtain ⟨symbols, l, hLink, hLinked⟩ := h.ready.linkSymbols_induct start step
  let done : SymbolIndex := { ix.ready with retained := symbols, registry := l.registry }
  obtain ⟨paths, hPaths⟩ := done.registry_linkSources
  have hPages := Linking.register_induct (P := fun l => Q l symbols)
    (fun l path => page l symbols path) (linked l symbols hLinked) paths
  refine ⟨{ done.linkSources with finalized := true },
    { l with registry := done.linkSources.registry }, ?_, ?_, ?_, rfl⟩
  · rw [finalize_eq, h.not_finalized, hLink]
    rfl
  · rwa [retained_linkSources, hPaths]
  · exact outputLongnames_linkSources _

/-- What both the link of one symbol and the registration of one page preserve holds of the
symbols of the finished index. -/
theorem IsOpen.finalize_induct (h : ix.IsOpen) {P : Linking → List Symbol → Prop}
    (start : P { registry := ix.registry } [])
    (step : ∀ s, s.id = none → ∀ l done, P l done →
      ∃ s' l', l.link ix.outputLongnames s = .ok (s', l') ∧ P l' (done ++ [s']))
    (page : ∀ l done path, P l done →
      P { l with registry := (l.registry.register path none).2 } done) :
    ∃ (ix' : SymbolIndex) (l : Linking), ix.finalize = .ok ix' ∧ P l ix'.retained ∧
      ix'.outputLongnames = ix.outputLongnames ∧ ix'.registry = l.registry :=
  h.finalize_induct_pages start step (fun _ _ => id) page

/-- An index that is not finished can be finished. -/
theorem IsOpen.exists_finalize (h : ix.IsOpen) : ∃ ix', ix.finalize = .ok ix' := by
  obtain ⟨ix', -, hFinalize, -⟩ := h.finalize_induct (P := fun _ _ => True) trivial
    (fun s _ l _ _ => by
      obtain ⟨s', l', hLink, -⟩ := l.exists_link ix.outputLongnames s
      exact ⟨s', l', hLink, trivial⟩)
    (fun _ _ _ _ => trivial)
  exact ⟨ix', hFinalize⟩

end SymbolIndex

end DocSite

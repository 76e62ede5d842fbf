import DocSite.Proofs.Symbol.Finished
import DocSite.Proofs.Symbol.SourceFiles

/-! Short paths. The directories that some paths share are found part by part, but what they
make up is the longest text that ends in a slash, or is empty, and begins all the paths:
such a text is made of whole parts with a slash after each. So what is left of a path is the
rest behind that text, and two files have one short path only if they have one path but for the
kind of their slashes. -/

namespace DocSite

namespace SourcePath

/-! ### Parts of a path -/

/-- The text that has a slash after each of some parts. -/
def slashAfter (parts : List (List Char)) : List Char := parts.flatMap (· ++ ['/'])

@[simp] theorem slashAfter_nil : slashAfter [] = [] := rfl

@[simp] theorem slashAfter_cons (part : List Char) (parts : List (List Char)) :
    slashAfter (part :: parts) = part ++ '/' :: slashAfter parts := by
  simp [slashAfter]

theorem slashAfter_append (parts more : List (List Char)) :
    slashAfter (parts ++ more) = slashAfter parts ++ slashAfter more :=
  List.flatMap_append

/-- A text is parts with slashes after them, and a last part. -/
theorem exists_splitAt_slash (cs : List Char) : ∃ parts last,
    splitAt '/' cs = parts ++ [last] ∧ cs = slashAfter parts ++ last ∧
      (∀ part ∈ parts, '/' ∉ part) ∧ '/' ∉ last := by
  induction cs with
  | nil => exact ⟨[], [], rfl, rfl, by simp, by simp⟩
  | cons c cs ih =>
    obtain ⟨parts, last, hSplit, hEq, hParts, hLast⟩ := ih
    by_cases hc : c = '/'
    · subst hc
      exact ⟨[] :: parts, last, by simp [splitAt, hSplit], by simp [← hEq], by simpa using hParts,
        hLast⟩
    · cases parts with
      | nil =>
        refine ⟨[], c :: last, ?_, by simp [hEq], by simp, by simp [Ne.symm hc, hLast]⟩
        simp [splitAt, hc, hSplit]
      | cons part parts =>
        obtain ⟨hPart, hParts⟩ := List.forall_mem_cons.1 hParts
        refine ⟨(c :: part) :: parts, last, by simp [splitAt, hc, hSplit], by simp [hEq], ?_, hLast⟩
        exact List.forall_mem_cons.2 ⟨by simp [Ne.symm hc, hPart], hParts⟩

theorem splitAt_append_slash {part : List Char} (h : '/' ∉ part) (cs : List Char) :
    splitAt '/' (part ++ '/' :: cs) = part :: splitAt '/' cs := by
  induction part with
  | nil => simp [splitAt]
  | cons c part ih =>
    obtain ⟨hc, hPart⟩ := not_or.1 (List.mem_cons.not.1 h)
    simp [splitAt, Ne.symm hc, ih hPart]

theorem splitAt_slashAfter {parts : List (List Char)} (h : ∀ part ∈ parts, '/' ∉ part)
    (cs : List Char) : splitAt '/' (slashAfter parts ++ cs) = parts ++ splitAt '/' cs := by
  induction parts with
  | nil => rfl
  | cons part parts ih =>
    obtain ⟨hPart, hParts⟩ := List.forall_mem_cons.1 h
    rw [slashAfter_cons, List.append_assoc, List.cons_append, splitAt_append_slash hPart, ih hParts,
      List.cons_append]

/-- Parts with slashes after them begin a text exactly if they are its first parts. -/
theorem slashAfter_isPrefix_iff {parts : List (List Char)} (h : ∀ part ∈ parts, '/' ∉ part)
    (cs : List Char) : slashAfter parts <+: cs ↔ parts <+: (splitAt '/' cs).dropLast := by
  constructor
  · rintro ⟨rest, rfl⟩
    rw [splitAt_slashAfter h, List.dropLast_append_of_ne_nil (splitAt_ne_nil '/' rest)]
    exact List.prefix_append _ _
  · intro hPrefix
    obtain ⟨all, last, hSplit, hEq, -, -⟩ := exists_splitAt_slash cs
    rw [hSplit, List.dropLast_concat] at hPrefix
    obtain ⟨more, rfl⟩ := hPrefix
    rw [hEq, slashAfter_append, List.append_assoc]
    exact List.prefix_append _ _

/-- A text that ends in a slash, if it is not empty, is parts with slashes after them. -/
theorem exists_eq_slashAfter {cs : List Char} (h : cs = [] ∨ cs.getLast? = some '/') :
    ∃ parts, cs = slashAfter parts ∧ ∀ part ∈ parts, '/' ∉ part := by
  obtain ⟨parts, last, -, rfl, hParts, hLast⟩ := exists_splitAt_slash cs
  have hEmpty : last = [] := by
    by_contra hNe
    rcases h with hNil | hSlash
    · exact hNe (List.append_eq_nil_iff.1 hNil).2
    · rw [List.getLast?_append_of_ne_nil _ hNe] at hSlash
      exact hLast (List.mem_of_getLast? hSlash)
  exact ⟨parts, by rw [hEmpty, List.append_nil], hParts⟩

theorem slash_closes_slashAfter (parts : List (List Char)) :
    slashAfter parts = [] ∨ (slashAfter parts).getLast? = some '/' := by
  induction parts using List.reverseRecOn with
  | nil => exact .inl rfl
  | append_singleton parts part => exact .inr (by simp [slashAfter_append])

/-! ### Shared directories -/

theorem isPrefix_commonStart_iff {α : Type} [DecidableEq α] {as bs cs : List α} :
    cs <+: commonStart as bs ↔ cs <+: as ∧ cs <+: bs := by
  constructor
  · intro h
    exact ⟨h.trans (commonStart_isPrefix_left as bs), h.trans (commonStart_isPrefix_right as bs)⟩
  · rintro ⟨hLeft, hRight⟩
    induction cs generalizing as bs with
    | nil => exact List.nil_prefix
    | cons c cs ih =>
      obtain ⟨as, rfl, hAs⟩ := List.cons_prefix_iff.1 hLeft
      obtain ⟨bs, rfl, hBs⟩ := List.cons_prefix_iff.1 hRight
      simpa [commonStart] using ih hAs hBs

theorem isPrefix_foldl_commonStart_iff {parts : List (List Char)} (paths : List String)
    (start : List (List Char)) :
    parts <+: paths.foldl (fun common path => commonStart common (directories path)) start ↔
      parts <+: start ∧ ∀ path ∈ paths, parts <+: directories path := by
  induction paths generalizing start with
  | nil => simp
  | cons path paths ih =>
    rw [List.foldl_cons, ih, isPrefix_commonStart_iff, List.forall_mem_cons, and_assoc]

/-- Directories are shared exactly if every path begins with them. -/
theorem isPrefix_commonDirectories_iff {path : String} {paths : List String}
    {parts : List (List Char)} : parts <+: commonDirectories (path :: paths) ↔
      ∀ p ∈ path :: paths, parts <+: directories p := by
  rw [commonDirectories, isPrefix_foldl_commonStart_iff, List.forall_mem_cons]

/-- A lead that some paths share: it ends in a slash, if it is not empty, and with slashes
between its directories every path begins with it. -/
structure IsSharedLead (paths : List String) (lead : String) : Prop where
  closed : lead = "" ∨ lead.toList.getLast? = some '/'
  shared : ∀ path ∈ paths, lead.toList <+: (slashed path).toList

/-- The shared leads are the beginnings of the shared directories. -/
theorem isSharedLead_iff {path : String} {paths : List String} {lead : String} :
    IsSharedLead (path :: paths) lead ↔ ∃ parts, lead.toList = slashAfter parts ∧
      (∀ part ∈ parts, '/' ∉ part) ∧ parts <+: commonDirectories (path :: paths) := by
  constructor
  · rintro ⟨hClosed, hShared⟩
    have hNil : lead = "" → lead.toList = [] := by
      rintro rfl
      rfl
    obtain ⟨parts, hLead, hParts⟩ := exists_eq_slashAfter (hClosed.imp_left hNil)
    refine ⟨parts, hLead, hParts, isPrefix_commonDirectories_iff.2 fun p hp => ?_⟩
    rw [directories, ← slashAfter_isPrefix_iff hParts, ← hLead]
    exact hShared p hp
  · rintro ⟨parts, hLead, hParts, hPrefix⟩
    constructor
    case closed =>
      rw [← String.toList_eq_nil_iff, hLead]
      exact slash_closes_slashAfter parts
    case shared =>
      intro p hp
      rw [hLead, slashAfter_isPrefix_iff hParts]
      exact isPrefix_commonDirectories_iff.1 hPrefix p hp

theorem toList_commonLead (paths : List String) :
    (commonLead paths).toList = slashAfter (commonDirectories paths) := String.toList_ofList

theorem slash_not_mem_commonDirectories {path : String} {paths : List String} :
    ∀ part ∈ commonDirectories (path :: paths), '/' ∉ part := by
  intro part hPart
  obtain ⟨parts, last, hSplit, -, hParts, -⟩ := exists_splitAt_slash (slashed path).toList
  have hFirst : commonDirectories (path :: paths) <+: directories path :=
    isPrefix_commonDirectories_iff.1 List.prefix_rfl path List.mem_cons_self
  rw [directories, hSplit, List.dropLast_concat] at hFirst
  exact hParts part (hFirst.subset hPart)

/-- The lead of the shared directories is shared. -/
theorem isSharedLead_commonLead (path : String) (paths : List String) :
    IsSharedLead (path :: paths) (commonLead (path :: paths)) :=
  isSharedLead_iff.2 ⟨_, toList_commonLead _, slash_not_mem_commonDirectories, List.prefix_rfl⟩

/-- The lead of the shared directories begins with every shared lead, so it is the longest. -/
theorem IsSharedLead.isPrefix {path : String} {paths : List String} {lead : String}
    (h : IsSharedLead (path :: paths) lead) :
    lead.toList <+: (commonLead (path :: paths)).toList := by
  obtain ⟨parts, hLead, -, more, hMore⟩ := isSharedLead_iff.1 h
  rw [hLead, toList_commonLead, ← hMore, slashAfter_append]
  exact List.prefix_append _ _

/-- A path is its short path behind the shared lead. -/
theorem slashed_eq_append_short {paths : List String} {path : String} (h : path ∈ paths) :
    slashed path = commonLead paths ++ short (commonLead paths) path := by
  cases paths with
  | nil => exact absurd h List.not_mem_nil
  | cons first paths =>
    have hShared := (isSharedLead_commonLead first paths).shared path h
    rw [← String.toList_inj, String.toList_append, short, String.toList_ofList]
    exact (List.prefix_iff_eq_append.1 hShared).symm

end SourcePath

/-! ### Finished indexes -/

/-- The value under a key of a dictionary whose values have been made of the keys. -/
theorem Dict.get?_map_keys {κ α : Type} [DecidableEq κ] (f : κ → α) (d : Dict κ α) {k : κ}
    (h : k ∈ d.keys) : Dict.get? (d.map fun (key, _) => (key, f key)) k = some (f k) := by
  induction d with
  | nil => exact absurd h List.not_mem_nil
  | cons e d ih =>
    rw [List.map_cons, Dict.get?]
    split_ifs with hKey
    · rw [hKey]
    · rw [Dict.keys_cons, List.mem_cons] at h
      exact ih (h.resolve_left (Ne.symm hKey))

theorem Dict.keys_map_keys {κ α : Type} (f : κ → α) (d : Dict κ α) :
    Dict.keys (d.map fun (key, _) => (key, f key) : List (κ × α)) = d.keys := by
  rw [Dict.keys, List.map_map]
  rfl

namespace SymbolIndex

/-- How the source files of a finished index are shown. -/
structure ShortensPaths (ix : SymbolIndex) : Prop where
  /-- The files of the symbols are recorded, and each has a short path. -/
  recorded : ix.shortPaths.keys = Doclet.sourcePaths ix.doclets
  /-- A path is the lead that all files share, and then the short path. -/
  shortened : ∀ path ∈ ix.shortPaths.keys, ∃ short,
    ix.shortPaths.get? path = some (some short) ∧
      SourcePath.slashed path = SourcePath.commonLead ix.shortPaths.keys ++ short
  /-- Files with one short path have one path, but for the kind of its slashes. -/
  apart : ∀ path ∈ ix.shortPaths.keys, ∀ other ∈ ix.shortPaths.keys,
    ix.shortPaths.get? path = ix.shortPaths.get? other →
      SourcePath.slashed path = SourcePath.slashed other
  /-- A symbol is shown with the short path of its file, if it has one. -/
  shown : ∀ s ∈ ix.retained, s.sourcePath = s.doclet.sourcePath ∧
    (s.sourcePath = none → s.shortPath = none) ∧
    ∀ path, s.sourcePath = some path →
      path ∈ ix.shortPaths.keys ∧ ix.shortPaths.get? path = some s.shortPath

theorem keys_findShortPaths (ix : SymbolIndex) :
    ix.findShortPaths.shortPaths.keys = ix.shortPaths.keys :=
  Dict.keys_map_keys (fun path =>
    some (SourcePath.short (SourcePath.commonLead ix.shortPaths.keys) path)) ix.shortPaths

theorem get?_findShortPaths {ix : SymbolIndex} {path : String} (h : path ∈ ix.shortPaths.keys) :
    ix.findShortPaths.shortPaths.get? path =
      some (some (SourcePath.short (SourcePath.commonLead ix.shortPaths.keys) path)) :=
  Dict.get?_map_keys (fun path =>
    some (SourcePath.short (SourcePath.commonLead ix.shortPaths.keys) path)) ix.shortPaths h

section Finalize
variable {r : LinkRegistry} {registersSources : Bool} {ds : List Doclet} {ix : SymbolIndex}
  (h : ((empty r registersSources).ingest ds).finalize = .ok ix)
include h

theorem keys_shortPaths_of_finalize : ix.shortPaths.keys = Doclet.sourcePaths ix.doclets := by
  have hEmpty : (empty r registersSources).RecordsSources := rfl
  rw [shortPaths_of_finalize h, keys_findShortPaths, (finishes_of_finalize h).doclets_eq,
    (hEmpty.ingest ds).keys]

theorem get?_shortPaths_of_finalize {path : String} (hPath : path ∈ ix.shortPaths.keys) :
    ix.shortPaths.get? path =
      some (some (SourcePath.short (SourcePath.commonLead ix.shortPaths.keys) path)) := by
  rw [shortPaths_of_finalize h, keys_findShortPaths] at hPath ⊢
  exact get?_findShortPaths hPath

theorem shortensPaths_of_finalize : ix.ShortensPaths := by
  have hShort : ∀ path ∈ ix.shortPaths.keys, ∃ short,
      ix.shortPaths.get? path = some (some short) ∧
        SourcePath.slashed path = SourcePath.commonLead ix.shortPaths.keys ++ short :=
    fun path hPath => ⟨_, get?_shortPaths_of_finalize h hPath,
      SourcePath.slashed_eq_append_short hPath⟩
  constructor
  case recorded => exact keys_shortPaths_of_finalize h
  case shortened => exact hShort
  case apart =>
    intro path hPath other hOther hSame
    obtain ⟨short, hGet, hEq⟩ := hShort path hPath
    obtain ⟨short', hGet', hEq'⟩ := hShort other hOther
    rw [hGet, hGet'] at hSame
    rw [hEq, hEq', Option.some.inj (Option.some.inj hSame)]
  case shown =>
    intro s hs
    obtain ⟨place, hEq⟩ := exists_of_mem_finalize h hs
    have hSource : s.sourcePath = s.doclet.sourcePath := congrArg Symbol.sourcePath hEq
    have hShown : s.shortPath = s.sourcePath.bind fun path => (ix.shortPaths.get? path).join := by
      rw [hSource, shortPaths_of_finalize h]
      exact congrArg Symbol.shortPath hEq
    refine ⟨hSource, fun hNone => ?_, fun path hPath => ?_⟩
    · rw [hShown, hNone, Option.bind_none]
    · have hKey : path ∈ ix.shortPaths.keys := by
        rw [keys_shortPaths_of_finalize h, Doclet.sourcePaths, List.mem_eraseDups,
          List.mem_filterMap]
        exact ⟨s.doclet, List.mem_map_of_mem hs, hSource.symm.trans hPath⟩
      refine ⟨hKey, ?_⟩
      rw [hShown, hPath, Option.bind_some, get?_shortPaths_of_finalize h hKey]
      rfl

end Finalize

/-- The shared lead of some paths is the longest text that ends in a slash, or is empty, and
begins every path written with slashes. When any doclets have been indexed, the index can be
finished, and its source files are shown without the lead that all of them share. -/
theorem paths_shortened (r : LinkRegistry) (registersSources : Bool) (ds : List Doclet) :
    (∀ path paths, SourcePath.IsSharedLead (path :: paths) (SourcePath.commonLead (path :: paths)) ∧
      ∀ lead, SourcePath.IsSharedLead (path :: paths) lead →
        lead.toList <+: (SourcePath.commonLead (path :: paths)).toList) ∧
    ∃ ix, ((empty r registersSources).ingest ds).finalize = .ok ix ∧ ix.ShortensPaths := by
  obtain ⟨ix, hFinalize⟩ := ((isOpen_empty r registersSources).ingest ds).exists_finalize
  refine ⟨fun path paths => ?_, ix, hFinalize, shortensPaths_of_finalize hFinalize⟩
  exact ⟨SourcePath.isSharedLead_commonLead path paths, fun lead hLead => hLead.isPrefix⟩

end SymbolIndex

end DocSite

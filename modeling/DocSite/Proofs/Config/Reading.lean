import DocSite.Config.Environment
import DocSite.Proofs.Link.InlineBodies

/-! Settings as they are read. Reading trims the encoding, the paths and the patterns, and leaves
out blank and repeated paths, so what has been read is tidy: written as data and read again, it
is the same. Of settings that are not tidy, written as data, reading makes the tidy ones. -/

namespace DocSite

/-! ### Trimmed texts -/

namespace Text

theorem isTrimmed_trimBoth (cs : List Char) : IsTrimmed (trimBoth cs) where
  head c hc := by
    have hPrefix : trimBoth cs <+: trimStart cs := by
      rw [trimBoth, trimEnd, ← List.reverse_suffix, List.reverse_reverse]
      exact List.dropWhile_suffix _
    obtain ⟨rest, hRest⟩ := List.head?_eq_some_iff.1 hc
    rw [hRest] at hPrefix
    obtain ⟨behind, hBehind⟩ := hPrefix
    have hHead : (trimStart cs).head? = some c := by rw [← hBehind]; rfl
    have hNot := List.head?_dropWhile_not isBlank cs
    rw [← trimStart, hHead] at hNot
    simpa using hNot
  getLast c hc := by
    rw [trimBoth, trimEnd, List.getLast?_reverse] at hc
    have hNot := List.head?_dropWhile_not isBlank (trimStart cs).reverse
    rw [hc] at hNot
    simpa using hNot

/-- Trimming a trimmed text does nothing. -/
@[simp] theorem trim_trim (s : String) : trim (trim s) = trim s := by
  rw [trim, trim, String.toList_ofList, trimBoth_of_isTrimmed (isTrimmed_trimBoth _)]

end Text

/-! ### Tidy settings -/

namespace StaticFiles

theorem mem_distinct {a : String} {l : List String} : a ∈ distinct l ↔ a ∈ l := by
  induction l with
  | nil => rfl
  | cons b l ih => by_cases hb : a = b <;> simp [distinct, ih, hb]

theorem nodup_distinct (l : List String) : (distinct l).Nodup := by
  induction l with
  | nil => exact List.nodup_nil
  | cons b l ih => exact List.nodup_cons.2 ⟨by simp, ih.filter _⟩

theorem distinct_of_nodup {l : List String} (h : l.Nodup) : distinct l = l := by
  induction l with
  | nil => rfl
  | cons b l ih =>
    obtain ⟨hNot, hRest⟩ := List.nodup_cons.1 h
    have hKept : l.filter (· != b) = l := by
      refine List.filter_eq_self.2 fun a ha => ?_
      simpa using ne_of_mem_of_not_mem ha hNot
    rw [distinct, ih hRest, hKept]

/-- Paths that are trimmed, not blank and different. -/
structure IsTidyPaths (paths : List String) : Prop where
  trimmed : ∀ path ∈ paths, Text.trim path = path
  ne_empty : ∀ path ∈ paths, path ≠ ""
  nodup : paths.Nodup

theorem isTidyPaths_tidyPaths (paths : List String) : IsTidyPaths (tidyPaths paths) where
  trimmed path hPath := by
    obtain ⟨hMap, -⟩ := List.mem_filter.1 (mem_distinct.1 hPath)
    obtain ⟨raw, -, rfl⟩ := List.mem_map.1 hMap
    exact Text.trim_trim raw
  ne_empty path hPath := by simpa using (List.mem_filter.1 (mem_distinct.1 hPath)).2
  nodup := nodup_distinct _

theorem IsTidyPaths.tidyPaths_eq {paths : List String} (h : IsTidyPaths paths) :
    tidyPaths paths = paths := by
  have hTrim : paths.map Text.trim = paths := by
    rw [List.map_congr_left h.trimmed, List.map_id']
  have hKept : paths.filter (· != "") = paths :=
    List.filter_eq_self.2 fun path hPath => by simpa using h.ne_empty path hPath
  rw [tidyPaths, hTrim, hKept, distinct_of_nodup h.nodup]

end StaticFiles

namespace PathPattern

/-- A pattern whose text is trimmed and not blank. -/
structure IsTidy (p : PathPattern) : Prop where
  trimmed : Text.trim p.text = p.text
  ne_empty : p.text ≠ ""

/-- The text of a pattern is that pattern. -/
theorem ofText_text (p : PathPattern) : ofText p.text = .ok p := by
  unfold ofText
  split
  next pattern hParse =>
    have hSame : pattern = p.pattern := Except.ok.inj (hParse.symm.trans p.parsed)
    subst hSame
    rfl
  next failure hParse =>
    rw [p.parsed] at hParse
    cases hParse

theorem text_of_ofText {text : String} {p : PathPattern} (h : ofText text = .ok p) :
    p.text = text := by
  unfold ofText at h
  split at h
  · rw [← Except.ok.inj h]
  · cases h

end PathPattern

namespace Field

variable {α : Type} {record : Datum} {name : String} {reader : Reader α} {default result : α}

/-- The value of a field is the default or has been read. -/
theorem of_getD {P : α → Prop} (hDefault : P default)
    (hReader : ∀ {value result}, reader value = .ok result → P result)
    (h : getD record name reader default = .ok result) : P result := by
  unfold getD at h
  split at h
  next value _ =>
    cases hRead : reader value with
    | error misfit =>
      rw [hRead] at h
      cases h
    | ok read =>
      rw [hRead] at h
      rw [← Except.ok.inj h]
      exact hReader hRead
  next => rwa [← Except.ok.inj h]

theorem listItems_text (paths : List String) (index : ℕ) :
    listItems text index (paths.map .text) = .ok paths := by
  induction paths generalizing index with
  | nil => rfl
  | cons path paths ih =>
    rw [List.map_cons, listItems, text_text, ih]
    rfl

theorem getD_ofFields (fields : List (String × Datum)) (name : String) (reader : Reader α)
    (default : α) : getD (.ofFields fields) name reader default =
      match Dict.get? fields name with
      | some value => (reader value).mapError (Misfit.within name)
      | none => .ok default := by
  cases hFound : Dict.get? fields name <;> simp [getD, Datum.field?_ofFields, hFound]

end Field

namespace StaticFiles

theorem readPaths_ofTexts (paths : List String) :
    readPaths (.ofTexts paths) = .ok (tidyPaths paths) := by
  have hList : Field.list Field.text (.ofTexts paths) = .ok paths := Field.listItems_text paths 0
  rw [readPaths, hList]
  rfl

theorem isTidyPaths_of_readPaths {value : Datum} {paths : List String}
    (h : readPaths value = .ok paths) : IsTidyPaths paths := by
  obtain ⟨raw, -, hRaw⟩ := Field.exists_of_bind_eq_ok h
  rw [← Except.ok.inj hRaw]
  exact isTidyPaths_tidyPaths raw

theorem readPattern_ofText? {p? : Option PathPattern} (h : ∀ p ∈ p?, p.IsTidy) :
    readPattern (.ofText? (p?.map PathPattern.text)) = .ok p? := by
  cases p? with
  | none => rfl
  | some p =>
    have hp := h p rfl
    have hText : Field.optional Field.text (.text p.text) = .ok (some p.text) := rfl
    have hNe : (p.text == "") = false := by simpa using hp.ne_empty
    rw [Option.map_some, Datum.ofText?, readPattern, hText]
    simp only [bind, Except.bind, hp.trimmed, hNe, p.ofText_text, pure, Except.pure]
    rfl

theorem isTidy_of_readPattern {value : Datum} {p? : Option PathPattern}
    (h : readPattern value = .ok p?) : ∀ p ∈ p?, p.IsTidy := by
  obtain ⟨text?, -, h⟩ := Field.exists_of_bind_eq_ok h
  cases text? with
  | none =>
    obtain rfl := Except.ok.inj h
    exact nofun
  | some text =>
    dsimp only at h
    split_ifs at h with hBlank
    · obtain rfl := Except.ok.inj h
      exact nofun
    cases hPattern : PathPattern.ofText (Text.trim text) with
    | error failure =>
      rw [hPattern] at h
      cases h
    | ok pattern =>
      rw [hPattern] at h
      obtain rfl := Except.ok.inj h
      rintro p hp
      obtain rfl := Option.some.inj hp
      have hText := PathPattern.text_of_ofText hPattern
      exact ⟨by rw [hText, Text.trim_trim], by rw [hText]; simpa using hBlank⟩

/-- Static files with tidy paths and patterns. -/
structure IsTidy (s : StaticFiles) : Prop where
  paths : IsTidyPaths s.paths
  include? : ∀ p ∈ s.include?, p.IsTidy
  exclude? : ∀ p ∈ s.exclude?, p.IsTidy
  excluded : IsTidyPaths s.excluded

theorem isTidyPaths_nil : IsTidyPaths [] := ⟨nofun, nofun, List.nodup_nil⟩

theorem isTidy_empty : empty.IsTidy := ⟨isTidyPaths_nil, nofun, nofun, isTidyPaths_nil⟩

theorem isTidy_of_read {record : Datum} {s : StaticFiles} (h : read record = .ok s) :
    s.IsTidy := by
  cases record with
  | dict entries =>
    obtain ⟨paths, hPaths, h⟩ := Field.exists_of_bind_eq_ok h
    obtain ⟨included, hIncluded, h⟩ := Field.exists_of_bind_eq_ok h
    obtain ⟨banned, hBanned, h⟩ := Field.exists_of_bind_eq_ok h
    obtain ⟨excluded, hExcluded, h⟩ := Field.exists_of_bind_eq_ok h
    obtain ⟨_, -, h⟩ := Field.exists_of_bind_eq_ok h
    obtain rfl := Except.ok.inj h
    exact ⟨Field.of_getD isTidyPaths_nil isTidyPaths_of_readPaths hPaths,
      Field.of_getD nofun isTidy_of_readPattern hIncluded,
      Field.of_getD nofun isTidy_of_readPattern hBanned,
      Field.of_getD isTidyPaths_nil isTidyPaths_of_readPaths hExcluded⟩
  | _ => cases h

/-- The static files with their paths made tidy. -/
def tidied (s : StaticFiles) : StaticFiles :=
  { s with paths := tidyPaths s.paths, excluded := tidyPaths s.excluded }

theorem IsTidy.tidied_eq {s : StaticFiles} (h : s.IsTidy) : s.tidied = s := by
  rw [tidied, h.paths.tidyPaths_eq, h.excluded.tidyPaths_eq]

/-- Reading what is written makes the paths tidy. -/
theorem read_data {s : StaticFiles} (hInclude : ∀ p ∈ s.include?, p.IsTidy)
    (hExclude : ∀ p ∈ s.exclude?, p.IsTidy) : read s.data = .ok s.tidied := by
  have hPaths : Field.getD s.data "paths" readPaths [] = .ok (tidyPaths s.paths) := by
    simp [data, Field.getD_ofFields, Dict.get?, readPaths_ofTexts, Except.mapError]
  have hIncluded : Field.getD s.data "include_pattern" readPattern none = .ok s.include? := by
    simp [data, Field.getD_ofFields, Dict.get?, readPattern_ofText? hInclude, Except.mapError]
  have hBanned : Field.getD s.data "exclude_pattern" readPattern none = .ok s.exclude? := by
    simp [data, Field.getD_ofFields, Dict.get?, readPattern_ofText? hExclude, Except.mapError]
  have hExcluded : Field.getD s.data "exclude" readPaths [] = .ok (tidyPaths s.excluded) := by
    simp [data, Field.getD_ofFields, Dict.get?, readPaths_ofTexts, Except.mapError]
  have hKnown : Field.onlyKnown s.data fieldNames = .ok () := rfl
  have hRead : read s.data = (do
      let paths ← Field.getD s.data "paths" readPaths []
      let included ← Field.getD s.data "include_pattern" readPattern none
      let banned ← Field.getD s.data "exclude_pattern" readPattern none
      let excluded ← Field.getD s.data "exclude" readPaths []
      Field.onlyKnown s.data fieldNames
      return ⟨paths, included, banned, excluded⟩) := rfl
  rw [hRead, hPaths, hIncluded, hBanned, hExcluded, hKnown]
  rfl

end StaticFiles

namespace Config

/-- Settings with a tidy encoding, which is not blank, and tidy static files. -/
structure IsTidy (c : Config) : Prop where
  trimmed : Text.trim c.encoding = c.encoding
  ne_empty : c.encoding ≠ ""
  staticFiles : c.staticFiles.IsTidy

theorem isTidy_standard : standard.IsTidy :=
  ⟨by decide +kernel, by decide, StaticFiles.isTidy_empty⟩

theorem tidy_of_readEncoding {value : Datum} {encoding : String}
    (h : readEncoding value = .ok encoding) :
    Text.trim encoding = encoding ∧ encoding ≠ "" := by
  obtain ⟨text, -, h⟩ := Field.exists_of_bind_eq_ok h
  dsimp only at h
  split_ifs at h with hBlank
  · cases h
  · obtain rfl := Except.ok.inj h
    exact ⟨Text.trim_trim text, by simpa using hBlank⟩

theorem isTidy_of_read {record : Datum} {c : Config} (h : read record = .ok c) : c.IsTidy := by
  obtain ⟨writesSources, -, h⟩ := Field.exists_of_bind_eq_ok h
  obtain ⟨encoding, hEncoding, h⟩ := Field.exists_of_bind_eq_ok h
  obtain ⟨titleLead, -, h⟩ := Field.exists_of_bind_eq_ok h
  obtain ⟨staticFiles, hStatic, h⟩ := Field.exists_of_bind_eq_ok h
  obtain ⟨_, -, h⟩ := Field.exists_of_bind_eq_ok h
  obtain rfl := Except.ok.inj h
  obtain ⟨hTrimmed, hNe⟩ := Field.of_getD (P := fun e => Text.trim e = e ∧ e ≠ "")
    ⟨isTidy_standard.trimmed, isTidy_standard.ne_empty⟩ tidy_of_readEncoding hEncoding
  exact ⟨hTrimmed, hNe, Field.of_getD StaticFiles.isTidy_empty StaticFiles.isTidy_of_read hStatic⟩

/-- Settings that were accepted are tidy. -/
theorem isTidy_of_ofDatum {source : String} {settings : Datum} {c : Config}
    (h : ofDatum source settings = .ok c) : c.IsTidy := by
  cases settings with
  | null =>
    rw [← Except.ok.inj h]
    exact isTidy_standard
  | dict entries =>
    rw [ofDatum_dict] at h
    cases hSection : sectionOf (.dict entries) with
    | error fault =>
      rw [hSection] at h
      cases h
    | ok fields =>
      rw [hSection] at h
      dsimp only at h
      split_ifs at h
      cases hRead : read (plainKeys fields) with
      | error misfit => simp [hRead, Except.mapError] at h
      | ok read =>
        rw [hRead] at h
        rw [← Except.ok.inj h]
        exact isTidy_of_read hRead
  | _ => cases h

/-- The settings with their encoding and their paths made tidy. -/
def tidied (c : Config) : Config :=
  { c with encoding := Text.trim c.encoding, staticFiles := c.staticFiles.tidied }

theorem IsTidy.tidied_eq {c : Config} (h : c.IsTidy) : c.tidied = c := by
  rw [tidied, h.trimmed, h.staticFiles.tidied_eq]

/-- Why settings with a blank encoding are refused. -/
def blankEncoding : Misfit := ⟨["encoding"], .refused "encoding must be non-empty"⟩

/-- Reading what is written makes it tidy, unless the encoding is blank. -/
theorem read_data {c : Config} (hInclude : ∀ p ∈ c.staticFiles.include?, p.IsTidy)
    (hExclude : ∀ p ∈ c.staticFiles.exclude?, p.IsTidy) :
    read c.data = if Text.trim c.encoding = "" then .error blankEncoding else .ok c.tidied := by
  have hSources : Field.getD c.data "output_source_files" Field.truth standard.writesSources =
      .ok c.writesSources := by
    simp [data, Field.getD_ofFields, Dict.get?, Except.mapError]
  have hEncoding : Field.getD c.data "encoding" readEncoding standard.encoding =
      if Text.trim c.encoding = "" then .error blankEncoding else .ok (Text.trim c.encoding) := by
    simp only [data, Field.getD_ofFields, Dict.get?, readEncoding]
    by_cases hBlank : Text.trim c.encoding = "" <;>
      simp [hBlank, bind, Except.bind, Except.mapError, pure, Except.pure, Field.fail,
        Misfit.within, blankEncoding]
  have hTitle : Field.getD c.data "page_title_prefix" Field.text standard.titleLead =
      .ok c.titleLead := by
    simp [data, Field.getD_ofFields, Dict.get?, Except.mapError]
  have hStatic : Field.getD c.data "static_files" StaticFiles.read standard.staticFiles =
      .ok c.staticFiles.tidied := by
    simp [data, Field.getD_ofFields, Dict.get?, Except.mapError,
      StaticFiles.read_data hInclude hExclude]
  have hKnown : Field.onlyKnown c.data fieldNames = .ok () := rfl
  rw [read, hSources, hEncoding, hTitle, hStatic, hKnown]
  split_ifs <;> rfl

/-- Settings that were accepted are read again as they are. -/
theorem read_data_of_ofDatum {source : String} {settings : Datum} {c : Config}
    (h : ofDatum source settings = .ok c) : read c.data = .ok c := by
  have hTidy := isTidy_of_ofDatum h
  have hEncoding : Text.trim c.encoding ≠ "" := by
    rw [hTidy.trimmed]
    exact hTidy.ne_empty
  rw [read_data hTidy.staticFiles.include? hTidy.staticFiles.exclude?, if_neg hEncoding,
    hTidy.tidied_eq]

end Config

end DocSite

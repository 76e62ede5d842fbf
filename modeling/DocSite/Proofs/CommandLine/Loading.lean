import DocSite.CommandLine.Run
import DocSite.Proofs.Files.Directories
import DocSite.Proofs.Json.LongNumbers
import DocSite.Proofs.Symbol.WholeNames
import DocSite.Proofs.Text.Utf8Decoding

/-! How loading an input file ends. Doclets and settings each have an error that tells what is
wrong with them, and loading ends with it or with a value, except for what no layer
translates: a path that is none, bytes that are no text, a number of too many digits among the
doclets, and among the settings a scalar that does not fit its tag, a value that holds itself and
a repetition in a pattern that is too large. The command that prints the table of contents ends
with an exit code in the first case and by a crash in the second; it also crashes where an
address has to be encoded from a lone surrogate. -/

namespace DocSite

open Text (encodeUtf8 unifyBreaks)

namespace FileTree
variable {t : FileTree} {p : Path}

/-- Whether a file holds a text as UTF-8. -/
def HoldsText (t : FileTree) (p : Path) (cs : List Char) : Prop := t.read p = .ok (encodeUtf8 cs)

/-- Whether there is a file and what it holds is the UTF-8 of no text. -/
def HoldsNoText (t : FileTree) (p : Path) : Prop :=
  ∃ bytes, t.read p = .ok bytes ∧ ∀ cs, bytes ≠ encodeUtf8 cs

theorem read_of_hasNull (h : hasNull p = true) : t.read p = .error .nullCharacter := by
  rw [read, if_pos h]

theorem readText_plainEncoding (t : FileTree) (p : Path) : t.readText plainEncoding p =
    match t.read p with
    | .error cause => .error (.file cause)
    | .ok bytes => match Text.Encoding.decode .utf8 bytes with
      | .error e => .error (.codec (.undecodable e))
      | .ok cs => .ok (unifyBreaks false cs) := by
  have hCheck : checkEncoding plainEncoding = .ok () := by decide +kernel
  have hName : Text.Encoding.ofName? plainEncoding = some .utf8 := by decide +kernel
  have hCodec : Text.Codecs.standard plainEncoding = .ok Text.Encoding.utf8.codec := by
    rw [Text.Codecs.standard, hName]
  rw [readText, readTextBy, hCheck, hCodec]
  cases t.read p with
  | error cause => rfl
  | ok bytes =>
    cases hDecode : Text.Encoding.decode .utf8 bytes with
    | error e => simp [Text.Encoding.codec, Except.mapError, bind, Except.bind, hDecode]
    | ok cs =>
      simp [Text.Encoding.codec, Except.mapError, bind, Except.bind, hDecode, pure, Except.pure]

theorem readText_of_error {cause : FileError} (h : t.read p = .error cause) :
    t.readText plainEncoding p = .error (.file cause) := by
  rw [readText_plainEncoding, h]

theorem HoldsText.readText {cs : List Char} (h : t.HoldsText p cs) :
    t.readText plainEncoding p = .ok (unifyBreaks false cs) := by
  have hDecode := (Text.decode_utf8_eq_ok_iff _ cs).2 rfl
  simp only [readText_plainEncoding, show t.read p = .ok (encodeUtf8 cs) from h, hDecode]

/-- A file holds one text only. -/
theorem HoldsText.unique {cs cs' : List Char} (h : t.HoldsText p cs) (h' : t.HoldsText p cs') :
    cs = cs' := by
  have hBytes : encodeUtf8 cs = encodeUtf8 cs' := Except.ok.inj (h.symm.trans h')
  have hDecode := (Text.decode_utf8_eq_ok_iff _ cs).2 rfl
  rw [(Text.decode_utf8_eq_ok_iff _ cs').2 hBytes] at hDecode
  exact (Except.ok.inj hDecode).symm

theorem HoldsNoText.readText (h : t.HoldsNoText p) :
    ∃ e, t.readText plainEncoding p = .error (.codec (.undecodable e)) := by
  obtain ⟨bytes, hRead, hNone⟩ := h
  cases hDecode : Text.Encoding.decode .utf8 bytes with
  | error e => exact ⟨e, by simp only [readText_plainEncoding, hRead, hDecode]⟩
  | ok cs => exact absurd ((Text.decode_utf8_eq_ok_iff bytes cs).1 hDecode) (hNone cs)

/-- What there is to read: nothing, bytes that are no text, or a text. -/
theorem read_cases (t : FileTree) (p : Path) :
    (∃ cause, t.read p = .error cause) ∨ t.HoldsNoText p ∨ ∃ cs, t.HoldsText p cs := by
  cases hRead : t.read p with
  | error cause => exact .inl ⟨cause, rfl⟩
  | ok bytes =>
    by_cases hText : ∃ cs, bytes = encodeUtf8 cs
    · obtain ⟨cs, rfl⟩ := hText
      exact .inr (.inr ⟨cs, hRead⟩)
    · exact .inr (.inl ⟨bytes, hRead, not_exists.1 hText⟩)

end FileTree

open FileTree

/-- All failures are reported unless something escapes, if what escapes is a failure that is not
reported and nothing else is. -/
theorem forall_reported_iff {ε α : Type} {result : Except ε α} {IsReported : ε → Prop}
    {Escapes : Prop}
    (hEscapes : Escapes → ∃ failure, result = .error failure ∧ ¬ IsReported failure)
    (hFailure : ∀ failure, result = .error failure → ¬ IsReported failure → Escapes) :
    (∀ failure, result = .error failure → IsReported failure) ↔ ¬ Escapes := by
  constructor
  · intro hReports hEscape
    obtain ⟨failure, hResult, hNot⟩ := hEscapes hEscape
    exact hNot (hReports failure hResult)
  · intro hNone failure hResult
    exact not_not.1 fun hNot => hNone (hFailure failure hResult hNot)

/-! ### Doclets -/

namespace Doclet
variable {t : FileTree} {p : Path}

/-- Whether loading ended with the error of doclets. -/
def LoadFailure.IsReported (failure : LoadFailure) : Prop := ∃ error, failure = .load error

/-- What ends the loading of doclets otherwise than with their error. -/
inductive Escapes (t : FileTree) (p : Path) : Prop
  | noPath (hNull : hasNull p = true)
  | noText (hBytes : t.HoldsNoText p)
  | longNumber {cs : List Char} {excess : Text.DigitExcess} (hText : t.HoldsText p cs)
      (hParse : Json.parse (unifyBreaks false cs) = .error (.digits excess))

theorem Escapes.exists_failure (h : Escapes t p) :
    ∃ failure, load t p = .error failure ∧ ¬ failure.IsReported := by
  cases h with
  | noPath hNull =>
    refine ⟨.text (.file .nullCharacter), ?_, nofun⟩
    rw [load, readText_of_error (read_of_hasNull hNull)]
    rfl
  | noText hBytes =>
    obtain ⟨e, hRead⟩ := hBytes.readText
    refine ⟨.text (.codec (.undecodable e)), ?_, nofun⟩
    rw [load, hRead]
  | @longNumber cs excess hText hParse =>
    refine ⟨.number excess, ?_, nofun⟩
    simp only [load, hText.readText, hParse]

theorem escapes_of_load {failure : LoadFailure} (h : load t p = .error failure)
    (hNot : ¬ failure.IsReported) : Escapes t p := by
  rcases read_cases t p with ⟨cause, hRead⟩ | hBytes | ⟨cs, hText⟩
  · cases hNull : hasNull p with
    | true => exact .noPath hNull
    | false =>
      simp only [load, readText_of_error hRead, isRefusal_of_read hNull hRead, if_true] at h
      exact absurd ⟨_, (Except.error.inj h).symm⟩ hNot
  · exact .noText hBytes
  · simp only [load, hText.readText] at h
    split at h
    next value _ =>
      cases hList : readList value with
      | ok doclets => simp [hList, Except.mapError] at h
      | error e =>
        rw [hList] at h
        exact absurd ⟨_, (Except.error.inj h).symm⟩ hNot
    next excess hParse => exact .longNumber hText hParse
    next => exact absurd ⟨_, (Except.error.inj h).symm⟩ hNot

theorem reports_iff_not_escapes :
    (∀ failure, load t p = .error failure → failure.IsReported) ↔ ¬ Escapes t p :=
  forall_reported_iff Escapes.exists_failure fun _ => escapes_of_load

/-- Nothing escapes from a text without a number of too many digits. -/
theorem not_escapes_of_holdsText {cs : List Char} (hText : t.HoldsText p cs)
    (hShort : ∀ excess, ¬ Json.HasLongNumber excess (unifyBreaks false cs)) : ¬ Escapes t p := by
  intro hEscapes
  cases hEscapes with
  | noPath hNull =>
    have hRead : t.read p = .ok (encodeUtf8 cs) := hText
    rw [read_of_hasNull hNull] at hRead
    cases hRead
  | noText hBytes =>
    obtain ⟨bytes, hRead, hNone⟩ := hBytes
    exact hNone cs (Except.ok.inj (hRead.symm.trans hText))
  | @longNumber cs' excess hText' hParse =>
    rw [← hText.unique hText'] at hParse
    exact hShort excess (Json.hasLongNumber_of_parse hParse)

end Doclet

/-! ### Settings -/

namespace Config
variable {yaml : Yaml.Loader} {t : FileTree} {p : Path}

/-- Whether loading ended with the error of settings. -/
def LoadFailure.IsReported (failure : LoadFailure) : Prop := ∃ error, failure = .invalid error

/-- What ends the loading of settings otherwise than with their error. -/
inductive Escapes (yaml : Yaml.Loader) (t : FileTree) (p : Path) : Prop
  | noPath (hNull : hasNull p = true)
  | noText (hBytes : t.HoldsNoText p)
  | unfit {cs : List Char} {fault : Yaml.ValueFault} (hText : t.HoldsText p cs)
      (hParse : yaml (unifyBreaks false cs) = .error (.value fault))
  | endless {cs : List Char} {entries : List (Datum × Datum)} {fields : Datum}
      (hText : t.HoldsText p cs)
      (hParse : yaml (unifyBreaks false cs) = .ok (.dict entries))
      (hSection : sectionOf (.dict entries) = .ok fields) (hEndless : fields.isEndless = true)
  | vast {cs : List Char} {entries : List (Datum × Datum)} {fields : Datum}
      (hText : t.HoldsText p cs)
      (hParse : yaml (unifyBreaks false cs) = .ok (.dict entries))
      (hSection : sectionOf (.dict entries) = .ok fields) (hEnds : fields.isEndless = false)
      (hVast : isVast (plainKeys fields) = true)

theorem Escapes.exists_failure (h : Escapes yaml t p) :
    ∃ failure, load yaml t p = .error failure ∧ ¬ failure.IsReported := by
  cases h with
  | noPath hNull =>
    refine ⟨.text (.file .nullCharacter), ?_, nofun⟩
    rw [load, readText_of_error (read_of_hasNull hNull)]
    rfl
  | noText hBytes =>
    obtain ⟨e, hRead⟩ := hBytes.readText
    refine ⟨.text (.codec (.undecodable e)), ?_, nofun⟩
    rw [load, hRead]
  | @unfit cs fault hText hParse =>
    refine ⟨.value fault, ?_, nofun⟩
    simp only [load, hText.readText, hParse]
  | @endless cs entries fields hText hParse hSection hEndless =>
    refine ⟨.endless, ?_, nofun⟩
    simp only [load, hText.readText, hParse, ofDatum_dict, hSection, hEndless, if_true]
  | @vast cs entries fields hText hParse hSection hEnds hVast =>
    refine ⟨.tooLarge, ?_, nofun⟩
    simp [load, hText.readText, hParse, ofDatum_dict, hSection, hEnds, hVast]

theorem endless_or_vast_of_ofDatum {source : String} {value : Datum} {failure : LoadFailure}
    (h : ofDatum source value = .error failure) (hNot : ¬ failure.IsReported) :
    ∃ entries fields, value = .dict entries ∧ sectionOf (.dict entries) = .ok fields ∧
      (fields.isEndless = true ∨
        fields.isEndless = false ∧ isVast (plainKeys fields) = true) := by
  cases value with
  | null => simp [ofDatum] at h
  | dict entries =>
    rw [ofDatum_dict] at h
    cases hSection : sectionOf (.dict entries) with
    | error fault =>
      rw [hSection] at h
      exact absurd ⟨_, (Except.error.inj h).symm⟩ hNot
    | ok fields =>
      rw [hSection] at h
      dsimp only at h
      split_ifs at h with hEndless hVast
      · exact ⟨entries, fields, rfl, hSection, .inl hEndless⟩
      · exact ⟨entries, fields, rfl, hSection, .inr ⟨by simpa using hEndless, hVast⟩⟩
      · cases hRead : read (plainKeys fields) with
        | ok c => simp [hRead, Except.mapError] at h
        | error m =>
          rw [hRead] at h
          exact absurd ⟨_, (Except.error.inj h).symm⟩ hNot
  | _ => exact absurd ⟨_, (Except.error.inj h).symm⟩ hNot

theorem escapes_of_load {failure : LoadFailure} (h : load yaml t p = .error failure)
    (hNot : ¬ failure.IsReported) : Escapes yaml t p := by
  rcases read_cases t p with ⟨cause, hRead⟩ | hBytes | ⟨cs, hText⟩
  · cases hNull : hasNull p with
    | true => exact .noPath hNull
    | false =>
      simp only [load, readText_of_error hRead, isRefusal_of_read hNull hRead, if_true] at h
      exact absurd ⟨_, (Except.error.inj h).symm⟩ hNot
  · exact .noText hBytes
  · simp only [load, hText.readText] at h
    split at h
    next value hParse =>
      obtain ⟨entries, fields, rfl, hSection, hEndless | ⟨hEnds, hVast⟩⟩ :=
        endless_or_vast_of_ofDatum h hNot
      · exact .endless hText hParse hSection hEndless
      · exact .vast hText hParse hSection hEnds hVast
    next fault hParse => exact .unfit hText hParse
    next => exact absurd ⟨_, (Except.error.inj h).symm⟩ hNot

theorem reports_iff_not_escapes :
    (∀ failure, load yaml t p = .error failure → failure.IsReported) ↔ ¬ Escapes yaml t p :=
  forall_reported_iff Escapes.exists_failure fun _ => escapes_of_load

end Config

/-! ### The table of contents -/

namespace CommandLine
variable {t : FileTree} {p : Path}

/-- The object that is printed when doclets cannot be loaded. -/
def errorObject (error : Doclet.LoadError) : Datum :=
  .ofFields [("ok", .bool false), ("error_type", .text "DocletLoadError"),
    ("message", .text error.message)]

theorem loadDoclets_eq (t : FileTree) (includePrivate : Bool) (p : Path) :
    loadDoclets t includePrivate p =
      (Doclet.load t p).map (Doclet.arrange includePrivate) := rfl

theorem runToc_of_error {error : Doclet.LoadError} (h : Doclet.load t p = .error (.load error))
    (includePrivate pretty : Bool) :
    runToc t p includePrivate pretty = ⟨.exit 1 (printed pretty (errorObject error)), t⟩ := by
  rw [runToc, loadDoclets_eq, h]
  rfl

theorem runToc_of_failure {failure : Doclet.LoadFailure} (h : Doclet.load t p = .error failure)
    (hNot : ¬ failure.IsReported) (includePrivate pretty : Bool) :
    runToc t p includePrivate pretty = ⟨.crash (.doclets failure), t⟩ := by
  rw [runToc, loadDoclets_eq, h]
  cases failure with
  | load error => exact absurd ⟨error, rfl⟩ hNot
  | _ => rfl

theorem run_toc_of_load {failure : Doclet.LoadFailure} (h : Doclet.load t p = .error failure)
    (tools : Tools) (env : Config.Environment) (includePrivate pretty : Bool) :
    (Command.toc p includePrivate pretty).run env t tools =
      runToc t p includePrivate pretty := by
  simp only [Command.run, loadDoclets_eq, h]
  rfl

/-- Doclets that are loaded are listed, if their addresses can be encoded. -/
theorem run_toc_of_finishesFresh {doclets : List Doclet} (h : Doclet.load t p = .ok doclets)
    {includePrivate : Bool} {ix : SymbolIndex}
    (hIndex : SymbolIndex.FinishesFresh false (Doclet.arrange includePrivate doclets) ix)
    (hWhole : ix.registry.IsWhole) (tools : Tools) (env : Config.Environment) (pretty : Bool) :
    (Command.toc p includePrivate pretty).run env t tools = ⟨.exit 0 (printed pretty
      (.list ((TocEntry.ofTree ix.registry ix.navTree).map TocEntry.data))), t⟩ := by
  have hNone : addressFault? (Doclet.arrange includePrivate doclets) = none := by
    rw [addressFault?, hIndex.finish hWhole]
  simp only [Command.run, loadDoclets_eq, h, Except.map, Except.toOption, Option.bind_some, hNone,
    runToc, hIndex.finalize]

theorem exists_crash_of_finishesFresh {doclets : List Doclet} (h : Doclet.load t p = .ok doclets)
    {includePrivate : Bool} {ix : SymbolIndex}
    (hIndex : SymbolIndex.FinishesFresh false (Doclet.arrange includePrivate doclets) ix)
    (hNot : ¬ ix.registry.IsWhole) (tools : Tools) (env : Config.Environment) (pretty : Bool) :
    ∃ cause, (Command.toc p includePrivate pretty).run env t tools =
      ⟨.crash (.build (.index (.address cause))), t⟩ := by
  obtain ⟨cause, hFinish⟩ := hIndex.address hNot
  have hFault : addressFault? (Doclet.arrange includePrivate doclets) = some (.address cause) := by
    rw [addressFault?, hFinish]
  refine ⟨cause, ?_⟩
  simp only [Command.run, loadDoclets_eq, h, Except.map, Except.toOption, Option.bind_some, hFault]

/-- Loading doclets ends with a value or with their error exactly if nothing escapes, and
nothing does from a text without a number of too many digits; likewise for settings, with any
reader of YAML. The command that prints the table of contents prints it or one object for the
error then, and crashes otherwise. Of doclets that are loaded it also crashes if an address
cannot be encoded, which takes a lone surrogate in a name. -/
theorem loading_reports_iff (tools : Tools) (env : Config.Environment) (t : FileTree) (p : Path)
    (includePrivate pretty : Bool) :
    ((∀ failure, Doclet.load t p = .error failure → failure.IsReported) ↔
      ¬ Doclet.Escapes t p) ∧
    (∀ cs, t.HoldsText p cs → (∀ excess, ¬ Json.HasLongNumber excess (unifyBreaks false cs)) →
      ¬ Doclet.Escapes t p) ∧
    ((∀ failure, Config.load tools.yaml t p = .error failure → failure.IsReported) ↔
      ¬ Config.Escapes tools.yaml t p) ∧
    (¬ Doclet.Escapes t p →
      (∃ doclets ix, Doclet.load t p = .ok doclets ∧
        ((SymbolIndex.empty .fresh false).ingest
          (Doclet.arrange includePrivate doclets)).finalize = .ok ix ∧
        (ix.registry.IsWhole →
          (Command.toc p includePrivate pretty).run env t tools = ⟨.exit 0 (printed pretty
            (.list ((TocEntry.ofTree ix.registry ix.navTree).map TocEntry.data))), t⟩) ∧
        (¬ ix.registry.IsWhole → ∃ cause,
          (Command.toc p includePrivate pretty).run env t tools =
            ⟨.crash (.build (.index (.address cause))), t⟩) ∧
        ((∀ d ∈ doclets, d.IsWhole) → ix.registry.IsWhole)) ∨
      ∃ error, Doclet.load t p = .error (.load error) ∧
        (Command.toc p includePrivate pretty).run env t tools =
          ⟨.exit 1 (printed pretty (errorObject error)), t⟩) ∧
    (Doclet.Escapes t p → ∃ failure, Doclet.load t p = .error failure ∧
      (Command.toc p includePrivate pretty).run env t tools = ⟨.crash (.doclets failure), t⟩) := by
  refine ⟨Doclet.reports_iff_not_escapes, fun cs => Doclet.not_escapes_of_holdsText,
    Config.reports_iff_not_escapes, fun hNot => ?_, fun hEscapes => ?_⟩
  · cases hLoad : Doclet.load t p with
    | ok doclets =>
      obtain ⟨ix, hIndex⟩ :=
        SymbolIndex.exists_finishesFresh false (Doclet.arrange includePrivate doclets)
      refine .inl ⟨doclets, ix, rfl, hIndex.finalize, fun hWhole => ?_, fun hLone => ?_,
        fun hDoclets => hIndex.isWhole fun d hd => hDoclets d ?_⟩
      · exact run_toc_of_finishesFresh hLoad hIndex hWhole tools env pretty
      · exact exists_crash_of_finishesFresh hLoad hIndex hLone tools env pretty
      · exact (List.mem_filter.1 ((Doclet.arrange_perm includePrivate doclets).mem_iff.1 hd)).1
    | error failure =>
      obtain ⟨error, rfl⟩ := Doclet.reports_iff_not_escapes.2 hNot failure hLoad
      refine .inr ⟨error, rfl, ?_⟩
      rw [run_toc_of_load hLoad]
      exact runToc_of_error hLoad includePrivate pretty
  · obtain ⟨failure, hLoad, hNot⟩ := hEscapes.exists_failure
    refine ⟨failure, hLoad, ?_⟩
    rw [run_toc_of_load hLoad]
    exact runToc_of_failure hLoad hNot includePrivate pretty

/-- A file of one byte that begins no character. -/
def strayByteFile : FileTree where
  entries := [(["d.json"], .file [0xFF])]
  current := []

/-- The table of contents of such a file is not printed, and neither is an error. -/
theorem run_toc_strayByteFile :
    (run ["toc", "d.json"] [] strayByteFile).ending = .crash (.doclets (.text (.codec (.undecodable
      ⟨"utf-8", [0xFF], 0, "invalid start byte"⟩)))) ∧
    (∃ failure, Doclet.load strayByteFile (.ofString "d.json") = .error failure ∧
      ¬ failure.IsReported) ∧
    ∃ failure, Config.load Yaml.parse strayByteFile (.ofString "d.json") = .error failure ∧
      ¬ failure.IsReported := by
  have hBytes : strayByteFile.HoldsNoText (.ofString "d.json") := by
    refine ⟨[0xFF], by decide +kernel, fun cs hText => ?_⟩
    have hDecode := (Text.decode_utf8_eq_ok_iff [0xFF] cs).2 hText
    cases hDecode
  refine ⟨by decide +kernel, ?_, ?_⟩
  · exact (Doclet.Escapes.noText hBytes).exists_failure
  · exact (Config.Escapes.noText hBytes).exists_failure

end CommandLine

end DocSite

import DocSite.Proofs.Config.Reading
import DocSite.Proofs.Symbol.Linking

/-! Settings that the environment overrides. The settings are written as data, the variables that
are set replace four of the fields, and the data is read again. Settings that were accepted are
tidy, so the second reading changes nothing but these fields. -/

namespace DocSite.Config

variable {env : Environment} {c d : Config}

/-- Whether sources are written: what the variable says if it is set. -/
def sourcesSetting (env : Environment) (c : Config) : Option Bool :=
  ((env.get? sourcesVariable).map truthOfWord?).getD (some c.writesSources)

/-- The settings with the values of the variables as they stand. -/
def withVariables (env : Environment) (c : Config) (writesSources : Bool) : Config where
  writesSources := writesSources
  encoding := (env.get? encodingVariable).getD c.encoding
  titleLead := (env.get? titleVariable).getD c.titleLead
  staticFiles := { c.staticFiles with
    paths := ((env.get? pathsVariable).map colonParts).getD c.staticFiles.paths }

theorem overridden_eq (env : Environment) (c : Config) : overridden env c =
    match sourcesSetting env c with
    | some b => .ok (c.withVariables env b).data
    | none => .error (.notTruth sourcesVariable) := by
  unfold overridden sourcesSetting withVariables setFrom
  cases env.get? encodingVariable <;> cases env.get? titleVariable <;>
    cases env.get? pathsVariable <;> cases env.get? sourcesVariable with
    | none => rfl
    | some s =>
      rw [Option.map_some, Option.getD_some]
      dsimp only
      cases truthOfWord? s <;> rfl

/-- With the environment, tidy settings become those with the values of the variables, made tidy. -/
theorem withEnvironment_eq (h : c.IsTidy) : withEnvironment env c =
    match sourcesSetting env c with
    | none => .error (.notTruth sourcesVariable)
    | some b => if Text.trim (c.withVariables env b).encoding = "" then
        .error (.invalid ⟨"environment", .misfit blankEncoding⟩)
      else .ok (c.withVariables env b).tidied := by
  rw [withEnvironment, overridden_eq]
  cases sourcesSetting env c with
  | none => rfl
  | some b =>
    have hRead := read_data (c := c.withVariables env b) h.staticFiles.include?
      h.staticFiles.exclude?
    simp only [bind, Except.bind, hRead]
    split_ifs <;> rfl

/-! ### What a variable does -/

/-- A variable sets a value to what it is read as, and leaves the value alone if it is absent. -/
structure Sets {α : Type} (env : Environment) (name : String) (read : String → α)
    (old new : α) : Prop where
  of_absent : env.get? name = none → new = old
  of_present : ∀ s, env.get? name = some s → new = read s

theorem sets_iff {α : Type} {name : String} {read : String → α} {old new : α} :
    Sets env name read old new ↔ new = ((env.get? name).map read).getD old := by
  constructor
  · intro h
    cases hValue : env.get? name with
    | none => exact h.of_absent hValue
    | some s => exact h.of_present s hValue
  · rintro rfl
    exact ⟨fun hNone => by rw [hNone]; rfl, fun s hSome => by rw [hSome]; rfl⟩

/-- A variable that is absent sets nothing. -/
theorem sets_of_absent {α : Type} {name : String} (h : env.get? name = none) (read : String → α)
    (old : α) : Sets env name read old old :=
  ⟨fun _ => rfl, fun s hSome => by simp [h] at hSome⟩

/-- A value that a variable has set is not changed when the variable sets it again. -/
theorem Sets.again {α : Type} {name : String} {read : String → α} {old new : α}
    (h : Sets env name read old new) : Sets env name read new new :=
  ⟨fun _ => rfl, h.of_present⟩

/-- What an environment does to settings. Each of four variables sets one field, and the other
fields stay. -/
structure Overrides (env : Environment) (c d : Config) : Prop where
  writesSources : Sets env sourcesVariable truthOfWord? (some c.writesSources)
    (some d.writesSources)
  encoding : Sets env encodingVariable Text.trim c.encoding d.encoding
  titleLead : Sets env titleVariable id c.titleLead d.titleLead
  paths : Sets env pathsVariable (fun s => StaticFiles.tidyPaths (colonParts s))
    c.staticFiles.paths d.staticFiles.paths
  include? : d.staticFiles.include? = c.staticFiles.include?
  exclude? : d.staticFiles.exclude? = c.staticFiles.exclude?
  excluded : d.staticFiles.excluded = c.staticFiles.excluded

theorem Overrides.again (h : Overrides env c d) : Overrides env d d :=
  ⟨h.writesSources.again, h.encoding.again, h.titleLead.again, h.paths.again, rfl, rfl, rfl⟩

/-- The fields of tidy settings with the values of the variables, made tidy. -/
theorem eq_tidied_iff (h : c.IsTidy) (b : Bool) : d = (c.withVariables env b).tidied ↔
    d.writesSources = b ∧ Sets env encodingVariable Text.trim c.encoding d.encoding ∧
      Sets env titleVariable id c.titleLead d.titleLead ∧
      Sets env pathsVariable (fun s => StaticFiles.tidyPaths (colonParts s))
        c.staticFiles.paths d.staticFiles.paths ∧
      d.staticFiles.include? = c.staticFiles.include? ∧
      d.staticFiles.exclude? = c.staticFiles.exclude? ∧
      d.staticFiles.excluded = c.staticFiles.excluded := by
  have hEncoding : Text.trim ((env.get? encodingVariable).getD c.encoding) =
      ((env.get? encodingVariable).map Text.trim).getD c.encoding := by
    cases env.get? encodingVariable with
    | none => exact h.trimmed
    | some s => rfl
  have hPaths : StaticFiles.tidyPaths
        (((env.get? pathsVariable).map colonParts).getD c.staticFiles.paths) =
      ((env.get? pathsVariable).map fun s => StaticFiles.tidyPaths (colonParts s)).getD
        c.staticFiles.paths := by
    cases env.get? pathsVariable with
    | none => exact h.staticFiles.paths.tidyPaths_eq
    | some s => rfl
  obtain ⟨writesSources, encoding, titleLead, ⟨paths, include?, exclude?, excluded⟩⟩ := d
  simp only [withVariables, tidied, StaticFiles.tidied, Config.mk.injEq, StaticFiles.mk.injEq,
    hEncoding, hPaths, h.staticFiles.excluded.tidyPaths_eq, sets_iff, Option.map_id, id_eq]

/-- Tidy settings and an environment give the settings in which each variable has set its field,
if the encoding is not blank then. -/
theorem withEnvironment_eq_ok_iff (h : c.IsTidy) :
    withEnvironment env c = .ok d ↔ Overrides env c d ∧ d.encoding ≠ "" := by
  constructor
  · intro hOk
    rw [withEnvironment_eq h] at hOk
    cases hSources : sourcesSetting env c with
    | none => simp [hSources] at hOk
    | some b =>
      rw [hSources] at hOk
      dsimp only at hOk
      split_ifs at hOk with hBlank
      have hEq := (Except.ok.inj hOk).symm
      obtain ⟨hWrites, hEncoding, hTitle, hPaths, hInclude, hExclude, hExcluded⟩ :=
        (eq_tidied_iff h b).1 hEq
      have hSets : some d.writesSources = sourcesSetting env c := by rw [hWrites, hSources]
      refine ⟨⟨sets_iff.2 hSets, hEncoding, hTitle, hPaths, hInclude, hExclude, hExcluded⟩, ?_⟩
      rwa [hEq]
  · rintro ⟨hOverrides, hNe⟩
    have hSources : sourcesSetting env c = some d.writesSources :=
      (sets_iff.1 hOverrides.writesSources).symm
    have hEq := (eq_tidied_iff h d.writesSources).2 ⟨rfl, hOverrides.encoding,
      hOverrides.titleLead, hOverrides.paths, hOverrides.include?, hOverrides.exclude?,
      hOverrides.excluded⟩
    have hBlank : Text.trim (c.withVariables env d.writesSources).encoding ≠ "" := by
      rw [hEq] at hNe
      exact hNe
    rw [withEnvironment_eq h, hSources]
    dsimp only
    rw [if_neg hBlank, ← hEq]

theorem isTidy_of_withEnvironment (hOk : withEnvironment env c = .ok d) : d.IsTidy := by
  rw [withEnvironment] at hOk
  cases hRecord : overridden env c with
  | error e => simp [hRecord, bind, Except.bind] at hOk
  | ok record =>
    simp only [hRecord, bind, Except.bind] at hOk
    cases hRead : read record with
    | error misfit => simp [hRead, Except.mapError] at hOk
    | ok result =>
      rw [hRead] at hOk
      rw [← Except.ok.inj hOk]
      exact isTidy_of_read hRead

/-- The environment is refused if a variable says what it may not. -/
theorem exists_withEnvironment_eq_ok_iff (h : c.IsTidy) : (∃ d, withEnvironment env c = .ok d) ↔
    (∀ s, env.get? sourcesVariable = some s → (truthOfWord? s).isSome) ∧
      ∀ s, env.get? encodingVariable = some s → Text.trim s ≠ "" := by
  have hSources : (sourcesSetting env c).isSome ↔
      ∀ s, env.get? sourcesVariable = some s → (truthOfWord? s).isSome := by
    rw [sourcesSetting]
    cases env.get? sourcesVariable <;> simp
  have hEncoding : Text.trim ((env.get? encodingVariable).getD c.encoding) ≠ "" ↔
      ∀ s, env.get? encodingVariable = some s → Text.trim s ≠ "" := by
    cases env.get? encodingVariable with
    | none => simp [h.trimmed, h.ne_empty]
    | some s => simp
  rw [← hSources, ← hEncoding, withEnvironment_eq h]
  cases sourcesSetting env c with
  | none => simp
  | some b =>
    dsimp only [withVariables]
    split_ifs with hBlank <;> simp [hBlank]

/-- Settings that were accepted and an environment: each variable that is set changes the field it
names, and all other fields stay; the same environment changes nothing when it is applied again,
and an environment without the variables changes nothing at all. Only a truth value that is none
and a blank encoding are refused. -/
theorem withEnvironment_overrides {source : String} {settings : Datum}
    (h : ofDatum source settings = .ok c) (env : Environment) :
    (∀ d, withEnvironment env c = .ok d →
      Overrides env c d ∧ withEnvironment env d = .ok d) ∧
    (env.get? sourcesVariable = none → env.get? encodingVariable = none →
      env.get? titleVariable = none → env.get? pathsVariable = none →
      withEnvironment env c = .ok c) ∧
    ((∃ d, withEnvironment env c = .ok d) ↔
      (∀ s, env.get? sourcesVariable = some s → (truthOfWord? s).isSome) ∧
      ∀ s, env.get? encodingVariable = some s → Text.trim s ≠ "") := by
  have hTidy := isTidy_of_ofDatum h
  refine ⟨fun d hOk => ?_, fun hSources hEncoding hTitle hPaths => ?_,
    exists_withEnvironment_eq_ok_iff hTidy⟩
  · obtain ⟨hOverrides, hNe⟩ := (withEnvironment_eq_ok_iff hTidy).1 hOk
    exact ⟨hOverrides, (withEnvironment_eq_ok_iff (isTidy_of_withEnvironment hOk)).2
      ⟨hOverrides.again, hNe⟩⟩
  · refine (withEnvironment_eq_ok_iff hTidy).2 ⟨?_, hTidy.ne_empty⟩
    exact ⟨sets_of_absent hSources _ _, sets_of_absent hEncoding _ _, sets_of_absent hTitle _ _,
      sets_of_absent hPaths _ _, rfl, rfl, rfl⟩

/-- The settings of a file with blanks around its texts, under an environment that sets the
encoding and the paths. -/
theorem withEnvironment_overrides_paths :
    let settings := Datum.ofFields [("encoding", .text " latin-1 "),
      ("page_title_prefix", .text "Demo: "),
      ("static_files", .ofFields [("paths", .ofTexts ["a", " b ", "a"]),
        ("include_pattern", .text " [.]js$ ")])]
    let env : Environment := [(encodingVariable, " ascii"), (pathsVariable, "x: y::x")]
    ∃ c d, ofDatum "conf.json" settings = .ok c ∧ withEnvironment env c = .ok d ∧
      Overrides env c d ∧ withEnvironment env d = .ok d ∧
      c.staticFiles.paths = ["a", "b"] ∧ d.staticFiles.paths = ["x", "y"] ∧
      d.encoding = "ascii" ∧ d.titleLead = "Demo: " := by
  intro settings env
  have hRead : ((ofDatum "conf.json" settings).toOption.map fun c =>
      (c.titleLead, c.staticFiles.paths)) = some ("Demo: ", ["a", "b"]) := by
    decide +kernel
  obtain ⟨c, hOk, hFields⟩ := Option.map_eq_some_iff.1 hRead
  obtain ⟨hTitleLead, hPaths⟩ := Prod.mk.inj hFields
  have hAccepted : ofDatum "conf.json" settings = .ok c := eq_ok_of_toOption hOk
  obtain ⟨hOverrides, -, hExists⟩ := withEnvironment_overrides hAccepted env
  obtain ⟨d, hGiven⟩ := hExists.2 (by decide +kernel)
  obtain ⟨hSets, hAgain⟩ := hOverrides d hGiven
  have hNew : StaticFiles.tidyPaths (colonParts "x: y::x") = ["x", "y"] := by decide +kernel
  have hEncoding : Text.trim " ascii" = "ascii" := by decide +kernel
  exact ⟨c, d, hAccepted, hGiven, hSets, hAgain, hPaths,
    (hSets.paths.of_present "x: y::x" (by decide)).trans hNew,
    (hSets.encoding.of_present " ascii" (by decide)).trans hEncoding,
    (hSets.titleLead.of_absent (by decide)).trans hTitleLead⟩

end DocSite.Config

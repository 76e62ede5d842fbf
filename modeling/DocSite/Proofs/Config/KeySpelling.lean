import DocSite.Config.Source
import DocSite.Proofs.Symbol.Linking
import DocSite.Proofs.Text.PercentRoundTrip
import DocSite.SourcePath

/-! The spelling of the keys of settings. A key of small words with underscores between them may
as well be written with inner capitals: both become the same key before the settings are read.
So settings read the same, and are refused with the same error, however each of their keys is
spelled. -/

namespace DocSite

/-! ### Keys -/

namespace Text

/-- The lower case of an ASCII text does not depend on neighbours. -/
theorem lowerAfter_of_ascii {before cs : List Char} (h : ∀ c ∈ cs, c.toNat < 0x80) :
    lowerAfter before cs = cs.map Char.toLower := by
  induction cs generalizing before with
  | nil => rfl
  | cons c cs ih =>
    obtain ⟨hc, hRest⟩ := List.forall_mem_cons.1 h
    have hSigma : (c == 'Σ') = false := by
      rw [beq_eq_false_iff_ne]
      rintro rfl
      exact absurd hc (by decide)
    have hDotted : (c == 'İ') = false := by
      rw [beq_eq_false_iff_ne]
      rintro rfl
      exact absurd hc (by decide)
    simp [lowerAfter, hSigma, hDotted, lowerChar, hc, ih hRest]

end Text

namespace Config

/-- A character of the words of a key, besides the first. -/
def isKeyChar (c : Char) : Bool := c.isLower || c.isDigit

/-- A word of a key: a small letter, and behind it small letters and digits. -/
def isKeyWord : List Char → Bool
  | [] => false
  | c :: cs => c.isLower && cs.all isKeyChar

/-- A key of words with single underscores between them. -/
def isSnakeKey (key : String) : Bool := (SourcePath.splitAt '_' key.toList).all isKeyWord

/-- A key with each underscore left out and the letter behind it large. -/
def camelCase : List Char → List Char
  | '_' :: c :: cs => c.toUpper :: camelCase cs
  | c :: cs => c :: camelCase cs
  | [] => []

/-- A key of words with underscores, with inner capitals in their place. -/
def camelKey (key : String) : String := .ofList (camelCase key.toList)

/-- A character with an underscore before it if it is a capital. -/
def markCapital (c : Char) : List Char := if c.isUpper then ['_', c] else [c]

theorem ascii_of_isKeyChar {c : Char} (h : isKeyChar c = true) : c.toNat < 0x80 := by
  have hAlphanum : ((c.isUpper || c.isLower) || c.isDigit) = true := by
    rw [Bool.or_assoc]
    exact Bool.or_eq_true_iff.2 (.inr h)
  exact Text.toNat_lt_of_isAlphanum hAlphanum

theorem isKeyChar_of_isLower {c : Char} (h : c.isLower = true) : isKeyChar c = true := by
  simp [isKeyChar, h]

theorem ne_underscore_of_isKeyChar {c : Char} (h : isKeyChar c = true) : c ≠ '_' := by
  rintro rfl
  exact absurd h (by decide)

theorem camelCase_cons {c : Char} (h : c ≠ '_') (cs : List Char) :
    camelCase (c :: cs) = c :: camelCase cs := by
  rw [camelCase]
  exact fun _ _ hUnderscore => absurd hUnderscore h

/-- What is checked of all ASCII codes holds of the characters of a key. -/
theorem forall_isKeyChar {P : Char → Prop} (h : ∀ n < 0x80, P (Char.ofNat n)) {c : Char}
    (hc : isKeyChar c = true) : P c := by
  have hCode := h c.toNat (ascii_of_isKeyChar hc)
  rwa [Char.ofNat_toNat] at hCode

/-- Small letters and digits are neither marked nor made small. -/
theorem small_of_isKeyChar {c : Char} (h : isKeyChar c = true) :
    markCapital c = [c] ∧ c.toLower = c :=
  forall_isKeyChar (P := fun c => isKeyChar c = true → markCapital c = [c] ∧ c.toLower = c)
    (by decide +kernel) h h

/-- The capital of a small letter is marked, and becomes the letter when it is made small. -/
theorem capital_of_isLower {c : Char} (h : c.isLower = true) :
    markCapital c.toUpper = ['_', c.toUpper] ∧ c.toUpper.toLower = c :=
  forall_isKeyChar (P := fun c => c.isLower = true →
      markCapital c.toUpper = ['_', c.toUpper] ∧ c.toUpper.toLower = c)
    (by decide +kernel) (isKeyChar_of_isLower h) h

/-! ### The plain spelling of a key -/

/-- The rest of a key, from inside of a word on. -/
inductive IsKeyRest : List Char → Prop
  | nil : IsKeyRest []
  | char {c : Char} {cs : List Char} : isKeyChar c = true → IsKeyRest cs → IsKeyRest (c :: cs)
  | word {c : Char} {cs : List Char} :
      c.isLower = true → IsKeyRest cs → IsKeyRest ('_' :: c :: cs)

theorem isKeyRest_of_splitAt {cs part : List Char} {parts : List (List Char)}
    (hSplit : SourcePath.splitAt '_' cs = part :: parts) (hPart : part.all isKeyChar = true)
    (hParts : parts.all isKeyWord = true) : IsKeyRest cs := by
  induction cs using camelCase.induct generalizing part parts with
  | case1 c cs ih =>
    obtain ⟨-, rfl⟩ := List.cons_eq_cons.1 hSplit
    have hc : c ≠ '_' := by
      rintro rfl
      simp [SourcePath.splitAt, isKeyWord] at hParts
    obtain ⟨word, words, hRest, hWord⟩ := SourcePath.exists_splitAt_cons hc cs
    rw [hWord, List.all_cons, isKeyWord, Bool.and_eq_true, Bool.and_eq_true] at hParts
    exact .word hParts.1.1 (ih hRest hParts.1.2 hParts.2)
  | case2 c cs hNot ih =>
    have hc : c ≠ '_' := by
      rintro rfl
      cases cs with
      | nil =>
        obtain ⟨-, rfl⟩ := List.cons_eq_cons.1 hSplit
        exact absurd hParts (by decide)
      | cons d cs => exact hNot d cs rfl rfl
    obtain ⟨word, words, hRest, hWord⟩ := SourcePath.exists_splitAt_cons hc cs
    obtain ⟨rfl, rfl⟩ := List.cons_eq_cons.1 (hWord.symm.trans hSplit)
    rw [List.all_cons, Bool.and_eq_true] at hPart
    exact .char hPart.1 (ih hRest hPart.2 hParts)
  | case3 => exact .nil

theorem exists_cons_of_isSnakeKey {key : String} (h : isSnakeKey key = true) :
    ∃ c cs, key.toList = c :: cs ∧ isKeyChar c = true ∧ IsKeyRest cs := by
  rw [isSnakeKey] at h
  cases hKey : key.toList with
  | nil => exact absurd (hKey ▸ h) (by decide)
  | cons c cs =>
    have hc : c ≠ '_' := by
      rintro rfl
      simp [hKey, SourcePath.splitAt, isKeyWord] at h
    obtain ⟨part, parts, hRest, hFirst⟩ := SourcePath.exists_splitAt_cons hc cs
    rw [hKey, hFirst, List.all_cons, isKeyWord, Bool.and_eq_true, Bool.and_eq_true] at h
    obtain ⟨⟨hLower, hPart⟩, hParts⟩ := h
    exact ⟨c, cs, rfl, isKeyChar_of_isLower hLower, isKeyRest_of_splitAt hRest hPart hParts⟩

/-- A key with underscores has no capitals to mark or to make small. -/
theorem IsKeyRest.plain {cs : List Char} (h : IsKeyRest cs) :
    (∀ c ∈ cs, c.toNat < 0x80) ∧ cs.flatMap markCapital = cs ∧ cs.map Char.toLower = cs := by
  induction h with
  | nil => simp
  | char hc _ ih =>
    obtain ⟨hAscii, hMarks, hLower⟩ := ih
    obtain ⟨hMark, hSmall⟩ := small_of_isKeyChar hc
    exact ⟨List.forall_mem_cons.2 ⟨ascii_of_isKeyChar hc, hAscii⟩, by simp [hMark, hMarks],
      by simp [hSmall, hLower]⟩
  | word hFirst _ ih =>
    obtain ⟨hAscii, hMarks, hLower⟩ := ih
    have hc := isKeyChar_of_isLower hFirst
    obtain ⟨hMark, hSmall⟩ := small_of_isKeyChar hc
    have hSign : markCapital '_' = ['_'] ∧ '_'.toLower = '_' := by decide
    refine ⟨List.forall_mem_cons.2 ⟨by decide, List.forall_mem_cons.2 ⟨?_, hAscii⟩⟩, ?_, ?_⟩
    · exact ascii_of_isKeyChar hc
    · simp [hSign, hMark, hMarks]
    · simp [hSign, hSmall, hLower]

/-- Marking the capitals of a key with inner capitals and making them small gives the key with
underscores. -/
theorem IsKeyRest.map_toLower_camelCase {cs : List Char} (h : IsKeyRest cs) :
    ((camelCase cs).flatMap markCapital).map Char.toLower = cs := by
  induction h with
  | nil => rfl
  | @char c cs hc _ ih =>
    obtain ⟨hMark, hSmall⟩ := small_of_isKeyChar hc
    rw [camelCase_cons (ne_underscore_of_isKeyChar hc), List.flatMap_cons, hMark, List.map_append,
      ih, List.map_singleton, hSmall]
    rfl
  | @word c cs hLower _ ih =>
    obtain ⟨hMark, hSmall⟩ := capital_of_isLower hLower
    rw [camelCase, List.flatMap_cons, hMark, List.map_append, ih, List.map_cons,
      List.map_singleton, hSmall]
    rfl

/-- Only ASCII characters become ASCII characters when they are made small. -/
theorem ascii_of_toLower {c : Char} (h : c.toLower.toNat < 0x80) : c.toNat < 0x80 := by
  by_contra hBeyond
  have hSame : c.toLower = c :=
    dif_neg fun hUpper => hBeyond (Nat.lt_of_le_of_lt hUpper.2 (by decide))
  rw [hSame] at h
  exact hBeyond h

theorem plainKey_eq {key : String} {plain : List Char}
    (hSmall : (splitCapitals key.toList).map Char.toLower = plain)
    (hAscii : ∀ c ∈ plain, c.toNat < 0x80) : plainKey key = .ofList plain := by
  have hMarked : ∀ c ∈ splitCapitals key.toList, c.toNat < 0x80 := by
    intro c hc
    exact ascii_of_toLower (hAscii _ (hSmall ▸ List.mem_map_of_mem hc))
  rw [plainKey, Text.lower, String.toList_ofList, Text.lowerAfter_of_ascii hMarked, hSmall]

/-- Both spellings of a key of words have the one with underscores as their plain spelling. -/
theorem plainKey_of_isSnakeKey {key : String} (h : isSnakeKey key = true) :
    plainKey key = key ∧ plainKey (camelKey key) = key := by
  obtain ⟨c, cs, hKey, hc, hRest⟩ := exists_cons_of_isSnakeKey h
  obtain ⟨hChars, hMarks, hLower⟩ := hRest.plain
  have hSmall := (small_of_isKeyChar hc).2
  have hAscii : ∀ d ∈ c :: cs, d.toNat < 0x80 :=
    List.forall_mem_cons.2 ⟨ascii_of_isKeyChar hc, hChars⟩
  have hText : key = .ofList (c :: cs) := by rw [← hKey, String.ofList_toList]
  constructor
  · refine (plainKey_eq ?_ hAscii).trans hText.symm
    rw [hKey, splitCapitals, List.map_cons, hSmall]
    exact congrArg (c :: ·) ((congrArg _ hMarks).trans hLower)
  · refine (plainKey_eq ?_ hAscii).trans hText.symm
    rw [camelKey, String.toList_ofList, hKey, camelCase_cons (ne_underscore_of_isKeyChar hc),
      splitCapitals, List.map_cons, hSmall]
    exact congrArg (c :: ·) hRest.map_toLower_camelCase

/-- A key of one word, which has one spelling. -/
structure IsOneWord (word : String) : Prop where
  isSnakeKey : isSnakeKey word = true
  camelKey_eq : camelKey word = word

theorem isOneWord_templates : IsOneWord "templates" := ⟨by decide +kernel, by decide +kernel⟩

theorem isOneWord_sectionName : IsOneWord sectionName := ⟨by decide +kernel, by decide +kernel⟩

/-- No other key is spelled as a key of one word is. -/
theorem IsOneWord.camelKey_eq_iff {key word : String} (h : IsOneWord word)
    (hKey : Config.isSnakeKey key = true) : camelKey key = word ↔ key = word := by
  constructor
  · intro hCamel
    rw [← (plainKey_of_isSnakeKey hKey).2, hCamel, (plainKey_of_isSnakeKey h.isSnakeKey).1]
  · rintro rfl
    exact h.camelKey_eq

/-! ### Respelled settings -/

/-- The second key is the first one, spelled the same or with inner capitals. -/
inductive RespelledKey : Datum → Datum → Prop
  | kept (key : Datum) : RespelledKey key key
  | camel {key : String} : isSnakeKey key = true → RespelledKey (.text key) (.text (camelKey key))

mutual

/-- The second value is the first one with some of the keys in it, at any depth, spelled with
inner capitals. -/
inductive Respelled : Datum → Datum → Prop
  | kept (value : Datum) : Respelled value value
  | list {items items' : List Datum} :
      RespelledItems items items' → Respelled (.list items) (.list items')
  | dict {entries entries' : List (Datum × Datum)} :
      RespelledEntries entries entries' → Respelled (.dict entries) (.dict entries')

inductive RespelledItems : List Datum → List Datum → Prop
  | nil : RespelledItems [] []
  | cons {item item' : Datum} {items items' : List Datum} :
      Respelled item item' → RespelledItems items items' →
      RespelledItems (item :: items) (item' :: items')

inductive RespelledEntries : List (Datum × Datum) → List (Datum × Datum) → Prop
  | nil : RespelledEntries [] []
  | cons {key key' value value' : Datum} {entries entries' : List (Datum × Datum)} :
      RespelledKey key key' → Respelled value value' → RespelledEntries entries entries' →
      RespelledEntries ((key, value) :: entries) ((key', value') :: entries')

end

theorem RespelledKey.plainKey_display {key key' : Datum} (h : RespelledKey key key') :
    plainKey key'.display = plainKey key.display := by
  cases h with
  | kept => rfl
  | camel hKey =>
    obtain ⟨hPlain, hCamel⟩ := plainKey_of_isSnakeKey hKey
    exact hCamel.trans hPlain.symm

mutual

/-- Respelled settings have the same plain spelling. -/
theorem Respelled.plainKeys_eq {value value' : Datum} (h : Respelled value value') :
    plainKeys value' = plainKeys value := by
  cases h with
  | kept => rfl
  | list hItems => rw [plainKeys, plainKeys, hItems.plainItems_eq]
  | dict hEntries => rw [plainKeys, plainKeys, hEntries.plainEntries_eq]

theorem RespelledItems.plainItems_eq {items items' : List Datum} (h : RespelledItems items items') :
    plainItems items' = plainItems items := by
  cases h with
  | nil => rfl
  | cons hItem hItems => rw [plainItems, plainItems, hItem.plainKeys_eq, hItems.plainItems_eq]

theorem RespelledEntries.plainEntries_eq {entries entries' : List (Datum × Datum)}
    (h : RespelledEntries entries entries') (read : List (Datum × Datum)) :
    plainEntries read entries' = plainEntries read entries := by
  cases h with
  | nil => rfl
  | cons hKey hValue hEntries =>
    rw [plainEntries, plainEntries, hKey.plainKey_display, hValue.plainKeys_eq,
      hEntries.plainEntries_eq]

end

mutual

/-- The spelling of keys does not decide whether a value goes on without end. -/
theorem Respelled.isEndless_eq {value value' : Datum} (h : Respelled value value') :
    value'.isEndless = value.isEndless := by
  cases h with
  | kept => rfl
  | list hItems => rw [Datum.isEndless, Datum.isEndless, hItems.isEndlessAmong_eq]
  | dict hEntries => rw [Datum.isEndless, Datum.isEndless, hEntries.isEndlessUnder_eq]

theorem RespelledItems.isEndlessAmong_eq {items items' : List Datum}
    (h : RespelledItems items items') :
    Datum.isEndlessAmong items' = Datum.isEndlessAmong items := by
  cases h with
  | nil => rfl
  | cons hItem hItems =>
    rw [Datum.isEndlessAmong, Datum.isEndlessAmong, hItem.isEndless_eq, hItems.isEndlessAmong_eq]

theorem RespelledEntries.isEndlessUnder_eq {entries entries' : List (Datum × Datum)}
    (h : RespelledEntries entries entries') :
    Datum.isEndlessUnder entries' = Datum.isEndlessUnder entries := by
  cases h with
  | nil => rfl
  | cons _ hValue hEntries =>
    rw [Datum.isEndlessUnder, Datum.isEndlessUnder, hValue.isEndless_eq,
      hEntries.isEndlessUnder_eq]

end

/-! ### The section of respelled settings -/

/-- Whether an entry is under a key of one word does not depend on the spelling of keys. -/
theorem RespelledKey.sameKey_eq {key key' : Datum} {word : String} (h : RespelledKey key key')
    (hWord : IsOneWord word) :
    Datum.sameKey key' (.text word) = Datum.sameKey key (.text word) := by
  cases h with
  | kept => rfl
  | @camel key hKey =>
    rw [Datum.sameKey, Datum.sameKey, Bool.eq_iff_iff, beq_iff_eq, beq_iff_eq]
    exact hWord.camelKey_eq_iff hKey

theorem RespelledEntries.lookup? {entries entries' : List (Datum × Datum)} {word : String}
    (h : RespelledEntries entries entries') (hWord : IsOneWord word) :
    Option.Rel Respelled (Datum.lookup? entries (.text word))
      (Datum.lookup? entries' (.text word)) := by
  induction entries generalizing entries' with
  | nil =>
    cases h
    exact .none
  | cons entry entries ih =>
    cases h with
    | @cons key key' value value' _ _ hKey hValue hEntries =>
      have hFound := hKey.sameKey_eq hWord
      simp only [Datum.lookup?, List.find?_cons, hFound]
      cases Datum.sameKey key (.text word) with
      | true => exact .some hValue
      | false => exact ih hEntries

theorem Respelled.truthy_eq {value value' : Datum} (h : Respelled value value') :
    value'.truthy = value.truthy := by
  cases h with
  | kept => rfl
  | list hItems => cases hItems <;> rfl
  | dict hEntries => cases hEntries <;> rfl

theorem Respelled.field? {value value' : Datum} {word : String} (h : Respelled value value')
    (hWord : IsOneWord word) :
    Option.Rel Respelled (value.field? word) (value'.field? word) := by
  cases h with
  | kept =>
    cases value.field? word with
    | none => exact .none
    | some found => exact .some (.kept found)
  | list => exact .none
  | dict hEntries => exact hEntries.lookup? hWord

/-- Two settings have no section for one reason, or the section of the second is that of the first
one, respelled. -/
inductive RespelledSection : Except Invalid Datum → Except Invalid Datum → Prop
  | error (fault : Invalid) : RespelledSection (.error fault) (.error fault)
  | ok {fields fields' : Datum} :
      Respelled fields fields' → RespelledSection (.ok fields) (.ok fields')

theorem RespelledSection.refl (found : Except Invalid Datum) : RespelledSection found found := by
  cases found with
  | error fault => exact .error fault
  | ok fields => exact .ok (.kept fields)

/-- The section is looked up before keys are made plain, under two keys that have one spelling. -/
theorem Respelled.sectionOf {settings settings' : Datum} (h : Respelled settings settings') :
    RespelledSection (sectionOf settings) (sectionOf settings') := by
  have hTemplates := h.field? isOneWord_templates
  rw [Config.sectionOf, Config.sectionOf]
  generalize settings.field? "templates" = found, settings'.field? "templates" = found'
    at hTemplates ⊢
  cases hTemplates with
  | none => exact .ok h
  | @some templates templates' hTemplates =>
    cases hTemplates with
    | kept =>
      cases templates with
      | dict => exact .refl _
      | _ => exact .ok h
    | list => exact .ok h
    | @dict entries entries' hEntries =>
      have hSection := hEntries.lookup? isOneWord_sectionName
      dsimp only
      generalize Datum.lookup? entries (.text sectionName) = found,
        Datum.lookup? entries' (.text sectionName) = found' at hSection ⊢
      cases hSection with
      | none => exact .refl _
      | some hFields =>
        have hTruthy := hFields.truthy_eq
        cases hFields with
        | kept => exact .refl _
        | list =>
          dsimp only
          rw [hTruthy]
          exact .refl _
        | dict hEntries => exact .ok (.dict hEntries)

/-- Settings whose keys are words with underscores between them read the same, and are refused with
the same error, when any of the keys are spelled with inner capitals. -/
theorem ofDatum_respelled (source : String) {settings settings' : Datum}
    (h : Respelled settings settings') : ofDatum source settings' = ofDatum source settings := by
  cases h with
  | kept => rfl
  | list => rfl
  | @dict entries entries' hEntries =>
    have hSection := (Respelled.dict hEntries).sectionOf
    rw [ofDatum_dict, ofDatum_dict]
    generalize sectionOf (.dict entries) = found, sectionOf (.dict entries') = found'
      at hSection ⊢
    cases hSection with
    | error => rfl
    | ok hFields =>
      dsimp only
      rw [hFields.isEndless_eq, hFields.plainKeys_eq]

/-- The section of a file, with the first and the last of its keys respelled. -/
theorem ofDatum_respelled_section :
    let settings := Datum.ofFields [("templates", .ofFields [("baseline", .ofFields [
      ("page_title_prefix", .text "Demo: "), ("output_source_files", .bool false),
      ("static_files", .ofFields [("include_pattern", .text "[.]js$")])])])]
    let settings' := Datum.ofFields [("templates", .ofFields [("baseline", .ofFields [
      ("pageTitlePrefix", .text "Demo: "), ("output_source_files", .bool false),
      ("static_files", .ofFields [("includePattern", .text "[.]js$")])])])]
    Respelled settings settings' ∧ ∃ c, ofDatum "conf.json" settings = .ok c ∧
      ofDatum "conf.json" settings' = .ok c ∧ c.titleLead = "Demo: " ∧
      c.staticFiles.include?.map PathPattern.text = some "[.]js$" := by
  intro settings settings'
  have hTitle : RespelledKey (.text "page_title_prefix") (.text "pageTitlePrefix") := by
    have hCamel : camelKey "page_title_prefix" = "pageTitlePrefix" := by decide +kernel
    exact hCamel ▸ .camel (by decide +kernel)
  have hInclude : RespelledKey (.text "include_pattern") (.text "includePattern") := by
    have hCamel : camelKey "include_pattern" = "includePattern" := by decide +kernel
    exact hCamel ▸ .camel (by decide +kernel)
  have hStatic : Respelled (.ofFields [("include_pattern", .text "[.]js$")])
      (.ofFields [("includePattern", .text "[.]js$")]) :=
    .dict (.cons hInclude (.kept _) .nil)
  have hSection : RespelledEntries
      [(.text "page_title_prefix", .text "Demo: "), (.text "output_source_files", .bool false),
        (.text "static_files", .ofFields [("include_pattern", .text "[.]js$")])]
      [(.text "pageTitlePrefix", .text "Demo: "), (.text "output_source_files", .bool false),
        (.text "static_files", .ofFields [("includePattern", .text "[.]js$")])] :=
    .cons hTitle (.kept _) (.cons (.kept _) (.kept _) (.cons (.kept _) hStatic .nil))
  have hRespelled : Respelled settings settings' :=
    .dict (.cons (.kept _) (.dict (.cons (.kept _) (.dict hSection) .nil)) .nil)
  have hRead : ((ofDatum "conf.json" settings).toOption.map fun c =>
      (c.titleLead, c.staticFiles.include?.map PathPattern.text)) =
        some ("Demo: ", some "[.]js$") := by
    decide +kernel
  obtain ⟨c, hOk, hShown⟩ := Option.map_eq_some_iff.1 hRead
  obtain ⟨hTitleLead, hPattern⟩ := Prod.mk.inj hShown
  have hAccepted : ofDatum "conf.json" settings = .ok c := eq_ok_of_toOption hOk
  exact ⟨hRespelled, c, hAccepted, (ofDatum_respelled _ hRespelled).trans hAccepted, hTitleLead,
    hPattern⟩

end Config
end DocSite

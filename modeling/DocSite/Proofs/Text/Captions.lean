import DocSite.Example
import Mathlib.Data.List.Forall2
import Mathlib.Data.List.TakeWhile

/-! The grammar of examples with captions. A text that can be read as blanks, an opening tag, a
caption, a closing tag, blanks with a line break at their end, and code is an example with a
caption, and of all its readings the search takes the one with the shortest caption and, for that
caption, the most blanks. Any other text is code as a whole. -/

namespace DocSite

namespace Text

/-! ### Words in any case -/

theorem eq_toLower_or_eq_toUpper_toLower (c : Char) : c = c.toLower ∨ c = c.toLower.toUpper := by
  by_cases hCapital : c.val ≥ 'A'.val ∧ c.val ≤ 'Z'.val
  · have hAscii : ∀ n ≤ 'Z'.toNat, Char.ofNat n = (Char.ofNat n).toLower ∨
        Char.ofNat n = (Char.ofNat n).toLower.toUpper := by decide +kernel
    have hCode := hAscii c.toNat (UInt32.le_iff_toNat_le.1 hCapital.2)
    rwa [Char.ofNat_toNat] at hCode
  · have hSmall : c.toLower = c := dif_neg hCapital
    exact .inl hSmall.symm

/-- A character matches a letter of the tags exactly if the two cannot be told apart when the case
is ignored. -/
theorem matchesCaseless_iff {letter : Char} (h : letter ∈ Example.closingTag) (c : Char) :
    matchesCaseless letter c = true ↔ c ∈ caseForms letter := by
  have hMatches : Example.closingTag.all fun letter =>
      (caseForms letter).all (matchesCaseless letter) := by decide +kernel
  have hForms : Example.closingTag.all fun letter =>
      (caseForms letter).contains letter && (caseForms letter).contains letter.toUpper := by
    decide +kernel
  have hDotless : 'ı' ∈ caseForms 'i' := by decide +kernel
  have hDotted : 'İ' ∈ caseForms 'i' := by decide +kernel
  have hs : letter ≠ 's' := fun hEq => absurd (hEq ▸ h) (by decide)
  have hk : letter ≠ 'k' := fun hEq => absurd (hEq ▸ h) (by decide)
  constructor
  · intro hMatch
    obtain ⟨hSmall, hCapital⟩ : letter ∈ caseForms letter ∧ letter.toUpper ∈ caseForms letter := by
      simpa using List.all_eq_true.1 hForms letter h
    simp only [matchesCaseless, Bool.or_eq_true, Bool.and_eq_true, beq_iff_eq, hs, hk, false_and,
      or_false] at hMatch
    rcases hMatch with rfl | ⟨rfl, rfl | rfl⟩
    · rcases eq_toLower_or_eq_toUpper_toLower c with hc | hc
      · rwa [← hc] at hSmall ⊢
      · rwa [← hc] at hCapital
    · exact hDotless
    · exact hDotted
  · exact List.all_eq_true.1 (List.all_eq_true.1 hMatches letter h) c

/-- Whether a text is a word in any case. -/
def IsCaseOf (word cs : List Char) : Prop :=
  List.Forall₂ (fun letter c => c ∈ caseForms letter) word cs

theorem afterCaseless?_eq_some_iff {word cs rest : List Char} (h : word ⊆ Example.closingTag) :
    afterCaseless? word cs = some rest ↔ ∃ tag, IsCaseOf word tag ∧ cs = tag ++ rest := by
  induction word generalizing cs with
  | nil =>
    rw [afterCaseless?, Option.some_inj]
    constructor
    · rintro rfl
      exact ⟨[], .nil, rfl⟩
    · rintro ⟨tag, hTag, hEq⟩
      obtain rfl := List.forall₂_nil_left_iff.1 hTag
      exact hEq
  | cons letter word ih =>
    obtain ⟨hLetter, hWord⟩ := List.cons_subset.1 h
    cases cs with
    | nil =>
      refine iff_of_false (by simp [afterCaseless?]) ?_
      rintro ⟨tag, hTag, hEq⟩
      obtain ⟨d, tag, -, -, rfl⟩ := List.forall₂_cons_left_iff.1 hTag
      contradiction
    | cons c cs =>
      rw [afterCaseless?]
      constructor
      · intro hRest
        split at hRest
        · next hMatch =>
          obtain ⟨tag, hTag, rfl⟩ := (ih hWord).1 hRest
          exact ⟨c :: tag, .cons ((matchesCaseless_iff hLetter c).1 hMatch) hTag, rfl⟩
        · contradiction
      · rintro ⟨tag, hTag, hEq⟩
        obtain ⟨d, tag, hForm, hWordTag, rfl⟩ := List.forall₂_cons_left_iff.1 hTag
        rw [List.cons_append, List.cons.injEq] at hEq
        obtain ⟨rfl, rfl⟩ := hEq
        rw [if_pos ((matchesCaseless_iff hLetter c).2 hForm)]
        exact (ih hWord).2 ⟨tag, hWordTag, rfl⟩

end Text

namespace Example

/-! ### Code behind a line break -/

/-- Whether blanks, a line break and a text are a line that ends, with code behind it. -/
structure IsBreak (blanks : List Char) (lineBreak : Char) (code : List Char) : Prop where
  isBlank : ∀ c ∈ blanks, Text.isBlank c = true
  isLineBreak : Text.isLineBreak lineBreak = true
  code_ne_nil : code ≠ []

theorem IsBreak.of_cons {c : Char} {blanks : List Char} {lineBreak : Char} {code : List Char}
    (h : IsBreak (c :: blanks) lineBreak code) : IsBreak blanks lineBreak code :=
  ⟨fun d hd => h.isBlank d (List.mem_cons_of_mem _ hd), h.isLineBreak, h.code_ne_nil⟩

theorem not_isBreak_of_afterBreak?_eq_none {cs : List Char} (h : afterBreak? cs = none)
    {blanks : List Char} {lineBreak : Char} {code : List Char}
    (hEq : cs = blanks ++ lineBreak :: code) : ¬ IsBreak blanks lineBreak code := by
  intro hBreak
  induction blanks generalizing cs with
  | nil =>
    obtain rfl : cs = lineBreak :: code := hEq
    rw [afterBreak?, if_pos (Text.isLineBreak_isBlank hBreak.isLineBreak)] at h
    split at h
    · contradiction
    · rw [if_pos (by simp [hBreak.isLineBreak, hBreak.code_ne_nil])] at h
      contradiction
  | cons c blanks ih =>
    obtain rfl : cs = c :: (blanks ++ lineBreak :: code) := hEq
    rw [afterBreak?, if_pos (hBreak.isBlank c List.mem_cons_self)] at h
    refine ih ?_ rfl hBreak.of_cons
    split at h
    · contradiction
    · assumption

/-- The code is what follows the longest blanks with a line break at their end. -/
theorem exists_isBreak_of_afterBreak? {cs code : List Char} (h : afterBreak? cs = some code) :
    ∃ blanks lineBreak, cs = blanks ++ lineBreak :: code ∧ IsBreak blanks lineBreak code ∧
      ∀ blanks' lineBreak' code', cs = blanks' ++ lineBreak' :: code' →
        IsBreak blanks' lineBreak' code' → blanks' ++ [lineBreak'] <+: blanks ++ [lineBreak] := by
  induction cs with
  | nil => simp [afterBreak?] at h
  | cons c cs ih =>
    rw [afterBreak?] at h
    split at h
    · next hBlank =>
      cases hMore : afterBreak? cs with
      | some more =>
        rw [hMore] at h
        obtain rfl := Option.some.inj h
        obtain ⟨blanks, lineBreak, rfl, hBreak, hLongest⟩ := ih hMore
        refine ⟨c :: blanks, lineBreak, rfl, ⟨?_, hBreak.isLineBreak, hBreak.code_ne_nil⟩, ?_⟩
        · exact List.forall_mem_cons.2 ⟨hBlank, hBreak.isBlank⟩
        · rintro (_ | ⟨d, blanks'⟩) lineBreak' code' hEq hBreak'
          · obtain ⟨rfl, -⟩ := List.cons.inj hEq
            exact ⟨blanks ++ [lineBreak], rfl⟩
          · obtain ⟨rfl, hTail⟩ := List.cons.inj hEq
            exact List.cons_prefix_cons.2 ⟨rfl, hLongest _ _ _ hTail hBreak'.of_cons⟩
      | none =>
        rw [hMore] at h
        dsimp only at h
        split at h
        · next hHere =>
          rw [Bool.and_eq_true, Bool.not_eq_true', List.isEmpty_eq_false_iff] at hHere
          obtain rfl := Option.some.inj h
          refine ⟨[], c, rfl, ⟨by simp, hHere.1, hHere.2⟩, ?_⟩
          rintro (_ | ⟨d, blanks'⟩) lineBreak' code' hEq hBreak'
          · obtain ⟨rfl, -⟩ := List.cons.inj hEq
            exact List.prefix_rfl
          · obtain ⟨rfl, hTail⟩ := List.cons.inj hEq
            exact absurd hBreak'.of_cons (not_isBreak_of_afterBreak?_eq_none hMore hTail)
        · contradiction
    · contradiction

/-! ### The end of a caption -/

/-- The code of a text that begins with a closing tag and a line break behind it. -/
def codeBehindTag? (cs : List Char) : Option (List Char) :=
  (Text.afterCaseless? closingTag cs).bind afterBreak?

theorem splitCaption_cons (caption : List Char) (c : Char) (cs : List Char) :
    splitCaption caption (c :: cs) =
      match if caption.isEmpty then none else codeBehindTag? (c :: cs) with
      | some code => some (caption.reverse, code)
      | none => splitCaption (c :: caption) cs := rfl

/-- The search stops at the first place where code follows a caption that is not empty. -/
theorem exists_of_splitCaption {start cs caption code : List Char}
    (h : splitCaption start cs = some (caption, code)) :
    ∃ read rest, cs = read ++ rest ∧ caption = start.reverse ++ read ∧ caption ≠ [] ∧
      codeBehindTag? rest = some code ∧
      ∀ read' rest', cs = read' ++ rest' → start.reverse ++ read' ≠ [] →
        codeBehindTag? rest' ≠ none → read <+: read' := by
  induction cs generalizing start with
  | nil => simp [splitCaption] at h
  | cons c cs ih =>
    rw [splitCaption_cons] at h
    split at h
    · next code' hCode =>
      obtain ⟨rfl, rfl⟩ : start.reverse = caption ∧ code' = code := by simpa using h
      rw [Option.ite_none_left_eq_some] at hCode
      obtain ⟨hStart, hCode⟩ := hCode
      refine ⟨[], c :: cs, rfl, by simp, by simpa using hStart, hCode, ?_⟩
      exact fun read' rest' _ _ _ => List.nil_prefix
    · next hNone =>
      obtain ⟨read, rest, rfl, hCaption, hNe, hCode, hFirst⟩ := ih h
      refine ⟨c :: read, rest, rfl, by simpa using hCaption, hNe, hCode, ?_⟩
      rintro (_ | ⟨d, read'⟩) rest' hEq hStart hCode'
      · obtain rfl : c :: (read ++ rest) = rest' := hEq
        rw [if_neg (by simpa using hStart)] at hNone
        exact absurd hNone hCode'
      · obtain ⟨rfl, hTail⟩ := List.cons.inj hEq
        exact List.cons_prefix_cons.2 ⟨rfl, hFirst read' rest' hTail (by simp) hCode'⟩

theorem codeBehindTag?_eq_none_of_splitCaption {start cs : List Char}
    (h : splitCaption start cs = none) {read rest : List Char} (hEq : cs = read ++ rest)
    (hStart : start.reverse ++ read ≠ []) : codeBehindTag? rest = none := by
  induction cs generalizing start read with
  | nil =>
    obtain ⟨-, rfl⟩ := List.append_eq_nil_iff.1 hEq.symm
    rfl
  | cons c cs ih =>
    rw [splitCaption_cons] at h
    split at h
    · contradiction
    · next hNone =>
      cases read with
      | nil =>
        obtain rfl : c :: cs = rest := hEq
        rwa [if_neg (by simpa using hStart)] at hNone
      | cons d read =>
        obtain ⟨rfl, hTail⟩ := List.cons.inj hEq
        exact ih h hTail (by simp)

/-! ### Readings of a text -/

/-- A way to read a text as an example with a caption. -/
structure CaptionReading (text : List Char) where
  indent : List Char
  opening : List Char
  caption : List Char
  closing : List Char
  blanks : List Char
  lineBreak : Char
  code : List Char
  text_eq : text = indent ++ (opening ++ (caption ++ (closing ++ (blanks ++ lineBreak :: code))))
  isBlank_indent : ∀ c ∈ indent, Text.isBlank c = true
  isCaseOf_opening : Text.IsCaseOf openingTag opening
  caption_ne_nil : caption ≠ []
  isCaseOf_closing : Text.IsCaseOf closingTag closing
  isBreak : IsBreak blanks lineBreak code

section Reading
variable {text : List Char} (r : CaptionReading text)

/-- What is left of the text at the caption. -/
def CaptionReading.atCaption : List Char :=
  r.caption ++ (r.closing ++ (r.blanks ++ r.lineBreak :: r.code))

/-- Behind the blanks and the opening tag of a text stands the caption. -/
theorem CaptionReading.afterCaseless?_eq :
    Text.afterCaseless? openingTag (Text.trimStart text) = some r.atCaption := by
  refine (Text.afterCaseless?_eq_some_iff (by decide)).2 ⟨r.opening, r.isCaseOf_opening, ?_⟩
  obtain ⟨c, tag, hForm, -, hOpening⟩ := List.forall₂_cons_left_iff.1 r.isCaseOf_opening
  have hVisible : Text.isBlank c = false := by
    have hForms : (Text.caseForms '<').all fun c => !Text.isBlank c := by decide +kernel
    simpa using List.all_eq_true.1 hForms c hForm
  conv_lhs => rw [r.text_eq]
  rw [Text.trimStart, List.dropWhile_append_of_pos r.isBlank_indent, hOpening, List.cons_append,
    List.dropWhile_cons_of_neg (by simp [hVisible])]
  rfl

theorem CaptionReading.codeBehindTag?_ne_none :
    codeBehindTag? (r.closing ++ (r.blanks ++ r.lineBreak :: r.code)) ≠ none := by
  have hClosing : Text.afterCaseless? closingTag
      (r.closing ++ (r.blanks ++ r.lineBreak :: r.code)) =
      some (r.blanks ++ r.lineBreak :: r.code) :=
    (Text.afterCaseless?_eq_some_iff (List.Subset.refl _)).2 ⟨_, r.isCaseOf_closing, rfl⟩
  rw [codeBehindTag?, hClosing, Option.bind_some]
  exact fun hNone => not_isBreak_of_afterBreak?_eq_none hNone rfl r.isBreak

end Reading

/-! ### Main statement -/

/-- A text that can be read as an example with a caption is the one of the reading whose caption
begins that of every other reading and whose blanks up to the line break begin with those of every
other reading with that caption; any other text is code without a caption. -/
theorem ofText_reads (text : String) :
    (∃ r : CaptionReading text.toList, ofText text = ⟨.ofList r.caption, .ofList r.code⟩ ∧
        (∀ r' : CaptionReading text.toList, r.caption <+: r'.caption) ∧
        ∀ r' : CaptionReading text.toList, r'.caption = r.caption →
          r'.blanks ++ [r'.lineBreak] <+: r.blanks ++ [r.lineBreak]) ∨
      IsEmpty (CaptionReading text.toList) ∧ ofText text = ⟨"", text⟩ := by
  unfold ofText
  cases hSplit : (Text.afterCaseless? openingTag (Text.trimStart text.toList)).bind
      (splitCaption []) with
  | none =>
    refine .inr ⟨⟨fun r => ?_⟩, rfl⟩
    rw [r.afterCaseless?_eq, Option.bind_some] at hSplit
    exact r.codeBehindTag?_ne_none
      (codeBehindTag?_eq_none_of_splitCaption hSplit rfl (by simpa using r.caption_ne_nil))
  | some found =>
    obtain ⟨caption, code⟩ := found
    obtain ⟨atCaption, hOpening, hFound⟩ := Option.bind_eq_some_iff.1 hSplit
    obtain ⟨opening, hTag, hTrimmed⟩ := (Text.afterCaseless?_eq_some_iff (by decide)).1 hOpening
    obtain ⟨read, rest, rfl, hRead, hNe, hCode, hFirst⟩ := exists_of_splitCaption hFound
    obtain rfl : caption = read := hRead
    obtain ⟨behind, hClosing, hBehind⟩ := Option.bind_eq_some_iff.1 hCode
    obtain ⟨closing, hTag', rfl⟩ :=
      (Text.afterCaseless?_eq_some_iff (List.Subset.refl _)).1 hClosing
    obtain ⟨blanks, lineBreak, rfl, hBreak, hLongest⟩ := exists_isBreak_of_afterBreak? hBehind
    refine .inl ⟨⟨text.toList.takeWhile Text.isBlank, opening, caption, closing, blanks, lineBreak,
      code, ?_, fun c hc => List.mem_takeWhile_imp hc, hTag, hNe, hTag', hBreak⟩, rfl, ?_, ?_⟩
    · rw [← hTrimmed, Text.trimStart, List.takeWhile_append_dropWhile]
    · intro r
      have hRest := Option.some.inj (hOpening.symm.trans r.afterCaseless?_eq)
      exact hFirst _ _ hRest (by simpa using r.caption_ne_nil) r.codeBehindTag?_ne_none
    · intro r hCaption
      have hRest := Option.some.inj (hOpening.symm.trans r.afterCaseless?_eq)
      rw [CaptionReading.atCaption, hCaption] at hRest
      have hClosings : closing.length = r.closing.length :=
        hTag'.length_eq.symm.trans r.isCaseOf_closing.length_eq
      obtain ⟨-, hBehind⟩ := List.append_inj (List.append_cancel_left hRest) hClosings
      exact hLongest _ _ _ hBehind r.isBreak

/-- A closing tag without a line break behind it belongs to the caption, and the code keeps the
blanks at its start but for the lines that are blank. -/
example : ofText " <CAPTİON>a</caption>b</Caption> \n\n  c\n" = ⟨"a</caption>b", "  c\n"⟩ := by
  decide +kernel

end Example

end DocSite

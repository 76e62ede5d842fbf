import DocSite.Proofs.Link.DirectLinks

/-! Links bring in no markup of their own. What is shown by a link and what an address is made
of may be any text, read without its character references; yet what comes out is one of few
forms around escaped text, and a text with links is kept but for the links written in it. The
one text that is not resolved at all has a link with a decimal reference of too many digits,
which cannot be read. -/

namespace DocSite

/-! ### Forms of markup -/

/-- Escaped text as a part of markup. -/
def IsMarkupText (s : String) : Prop := Text.IsEscaped s.toList

theorem isMarkupText_escape (s : String) : IsMarkupText (Text.escape s) := Text.isEscaped_escape s

/-- The markup that may stand for an inline link: escaped text, perhaps set as code, by itself
or in an anchor, or the name of a tutorial that is not there. -/
inductive IsLinkMarkup : String → Prop
  | text {shown : String} : IsMarkupText shown → IsLinkMarkup shown
  | code {shown : String} : IsMarkupText shown → IsLinkMarkup ("<code>" ++ shown ++ "</code>")
  | anchor {url shown : String} : IsMarkupText url → IsMarkupText shown →
      IsLinkMarkup ("<a href=\"" ++ url ++ "\">" ++ shown ++ "</a>")
  | codeAnchor {url shown : String} : IsMarkupText url → IsMarkupText shown →
      IsLinkMarkup ("<a href=\"" ++ url ++ "\"><code>" ++ shown ++ "</code></a>")
  | missingTutorial {shown : String} : IsMarkupText shown →
      IsLinkMarkup ("<em class=\"disabled\">Tutorial: " ++ shown ++ "</em>")

theorem isLinkMarkup_label (label : Label) : IsLinkMarkup label.html := by
  cases label with
  | plain text => exact .text (isMarkupText_escape text)
  | code text => exact .code (isMarkupText_escape text)

theorem isLinkMarkup_anchor (url : String) (label : Label) :
    IsLinkMarkup (anchor url none label) := by
  have hUrl := isMarkupText_escape url
  rw [anchor_no_class]
  cases label with
  | plain text => exact .anchor hUrl (isMarkupText_escape text)
  | code text =>
    have hEq : "<a href=\"" ++ Text.escape url ++ "\">" ++ (Label.code text).html ++ "</a>" =
        "<a href=\"" ++ Text.escape url ++ "\"><code>" ++ Text.escape text ++ "</code></a>" := by
      simp [← String.toList_inj, Label.html]
    rw [hEq]
    exact .codeAnchor hUrl (isMarkupText_escape text)

/-- The markup of a direct link to a name that shows a plain text: the text by itself, or in
an anchor, which may have a class. -/
inductive IsDirectMarkup : String → Prop
  | text {shown : String} : IsMarkupText shown → IsDirectMarkup shown
  | anchor {url shown : String} : IsMarkupText url → IsMarkupText shown →
      IsDirectMarkup ("<a href=\"" ++ url ++ "\">" ++ shown ++ "</a>")
  | classAnchor {url cssClass shown : String} : IsMarkupText url → IsMarkupText cssClass →
      IsMarkupText shown →
      IsDirectMarkup ("<a href=\"" ++ url ++ "\" class=\"" ++ cssClass ++ "\">" ++ shown ++ "</a>")

theorem anchor_class (url : String) {name : String} (h : name ≠ "") (label : Label) :
    anchor url (some name) label = "<a href=\"" ++ Text.escape url ++ "\" class=\"" ++
      Text.escape name ++ "\">" ++ label.html ++ "</a>" := by
  unfold anchor
  simp [← String.toList_inj]

/-- An empty class is no class. -/
theorem anchor_empty_class (url : String) (label : Label) :
    anchor url (some "") label = anchor url none label := by
  unfold anchor
  rfl

theorem isDirectMarkup_anchor (url text : String) (cssClass : Option String) :
    IsDirectMarkup (anchor url cssClass (.plain text)) := by
  have hUrl := isMarkupText_escape url
  have hText := isMarkupText_escape text
  have hNoClass : IsDirectMarkup (anchor url none (.plain text)) :=
    anchor_no_class url (.plain text) ▸ .anchor hUrl hText
  cases cssClass with
  | none => exact hNoClass
  | some name =>
    by_cases hName : name = ""
    · rwa [hName, anchor_empty_class]
    · rw [anchor_class url hName]
      exact .classAnchor hUrl (isMarkupText_escape name) hText

namespace LinkRegistry

variable (r : LinkRegistry)

theorem isDirectMarkup_linkTo (name text : String) (cssClass fragment : Option String) :
    IsDirectMarkup (r.linkTo name (.plain text) cssClass fragment) := by
  unfold linkTo
  split
  · exact .text (isMarkupText_escape text)
  · exact isDirectMarkup_anchor _ text cssClass

theorem isLinkMarkup_linkTarget (target : String) (label : Label) :
    IsLinkMarkup (r.linkTarget target label) := by
  obtain hLabel | ⟨url, hAnchor⟩ := r.linkTarget_cases target label
  · exact hLabel ▸ isLinkMarkup_label label
  · exact hAnchor ▸ isLinkMarkup_anchor url label

theorem isLinkMarkup_tutorialLink (name text : String) :
    IsLinkMarkup (r.tutorialLink name (.plain text)) := by
  unfold tutorialLink
  split
  · exact .missingTutorial (isMarkupText_escape text)
  · exact isLinkMarkup_anchor _ (.plain text)

end LinkRegistry

/-! ### Links that can be read -/

namespace InlineLink

variable (r : LinkRegistry)

theorem isLinkMarkup_plainHtml (l : InlineLink) : IsLinkMarkup (plainHtml r l) := by
  unfold plainHtml
  cases l.tag with
  | tutorial => exact r.isLinkMarkup_tutorialLink _ _
  | link | linkcode | linkplain => exact r.isLinkMarkup_linkTarget _ _

/-- A link with a decimal reference of too many digits in its body or its caption. -/
def HasLongReference (l : InlineLink) : Prop :=
  Text.HasLongReference l.body.toList ∨
    ∃ caption ∈ l.caption, Text.HasLongReference caption.toList

theorem plain_isOk_iff (l : InlineLink) : (∃ p, l.plain = .ok p) ↔ ¬ l.HasLongReference := by
  obtain ⟨tag, caption, body⟩ := l
  rw [HasLongReference, not_or, ← Text.unescape_isOk_iff]
  cases caption with
  | none =>
    cases hBody : Text.unescape body <;> simp [plain, hBody, bind, pure, Except.bind, Except.pure]
  | some caption =>
    have hCaption := Text.unescape_isOk_iff caption
    cases hBody : Text.unescape body <;> cases hRead : Text.unescape caption <;>
      simp_all [plain, bind, pure, Except.bind, Except.pure]

theorem html_isOk_iff (l : InlineLink) :
    (∃ link, l.html r = .ok link) ↔ ¬ l.HasLongReference := by
  rw [InlineLink.html, Text.exists_map_eq_ok_iff, plain_isOk_iff]

theorem isLinkMarkup_html {l : InlineLink} {link : String} (h : l.html r = .ok link) :
    IsLinkMarkup link := by
  rw [InlineLink.html] at h
  cases hPlain : l.plain with
  | error excess => simp [hPlain, Except.map] at h
  | ok p =>
    rw [hPlain] at h
    obtain rfl := Except.ok.inj h
    exact isLinkMarkup_plainHtml r p

/-! ### Texts with links -/

/-- A text, and the text with markup in the place of links that are written in it. -/
inductive Replaced : List Char → String → Prop
  | nil : Replaced [] ""
  | char {c : Char} {cs : List Char} {html : String} :
      Replaced cs html → Replaced (c :: cs) (.singleton c ++ html)
  | link {l : InlineLink} {blanks rest : List Char} {link html : String} :
      l.IsWritten blanks → IsLinkMarkup link → Replaced rest html →
      Replaced (l.source blanks ++ rest) (link ++ html)

/-- Parts have markup exactly if each of the links among them can be read. -/
theorem htmlOf_isOk_iff (ps : List Part) :
    (∃ html, htmlOf r ps = .ok html) ↔ ∀ l, Part.link l ∈ ps → ¬ l.HasLongReference := by
  induction ps with
  | nil => exact ⟨fun _ => by simp, fun _ => ⟨"", rfl⟩⟩
  | cons p ps ih =>
    have hCons : (∃ html, htmlOf r (p :: ps) = .ok html) ↔
        (∃ shown, p.html r = .ok shown) ∧ ∃ later, htmlOf r ps = .ok later := by
      simp only [htmlOf_cons_eq_ok_iff]
      constructor
      · rintro ⟨_, shown, later, hShown, hLater, -⟩
        exact ⟨⟨shown, hShown⟩, later, hLater⟩
      · rintro ⟨⟨shown, hShown⟩, later, hLater⟩
        exact ⟨_, shown, later, hShown, hLater, rfl⟩
    rw [hCons, ih]
    cases p with
    | char c => simp [Part.html]
    | link l => simp [Part.html, html_isOk_iff]

/-- What the parts of a text are shown as is the text with its links replaced. -/
theorem replaced_htmlOf {cs : List Char} {ps : List Part} (h : Cuts cs ps) {html : String}
    (hHtml : htmlOf r ps = .ok html) : Replaced cs html := by
  induction h generalizing html with
  | nil =>
    obtain rfl := Except.ok.inj hHtml
    exact .nil
  | char _ _ ih =>
    obtain ⟨_, later, hShown, hLater, rfl⟩ := (htmlOf_cons_eq_ok_iff r).1 hHtml
    obtain rfl := Except.ok.inj hShown
    exact .char (ih hLater)
  | link hWritten _ ih =>
    obtain ⟨link, later, hLink, hLater, rfl⟩ := (htmlOf_cons_eq_ok_iff r).1 hHtml
    exact .link hWritten (isLinkMarkup_html r hLink) (ih hLater)

end InlineLink

namespace LinkRegistry

open InlineLink

/-- Resolving the links of a text returns the text with links replaced by safe markup, exactly
if it has no link with a decimal reference of too many digits. A direct link is safe as well,
whatever its name, text, class and fragment. -/
theorem resolveLinks_safe (r : LinkRegistry) :
    (∀ text : String, (∃ html, r.resolveLinks text = .ok html ∧ Replaced text.toList html) ↔
      ∀ l, Part.link l ∈ parts text.toList → ¬ l.HasLongReference) ∧
    ∀ (name text : String) (cssClass fragment : Option String),
      IsDirectMarkup (r.linkTo name (.plain text) cssClass fragment) := by
  refine ⟨fun text => ?_, r.isDirectMarkup_linkTo⟩
  rw [resolveLinks_eq, ← htmlOf_isOk_iff r]
  constructor
  · rintro ⟨html, hHtml, -⟩
    exact ⟨html, hHtml⟩
  · rintro ⟨html, hHtml⟩
    exact ⟨html, hHtml, replaced_htmlOf r (cuts_parts _) hHtml⟩

/-- A link whose target is a decimal reference with one digit too many. -/
def longReferenceLink : InlineLink :=
  ⟨.link, none, "&#" ++ .ofList (List.replicate (Text.digitLimit + 1) '1') ++ ";"⟩

/-- A text that is such a link is not resolved. -/
theorem resolveLinks_longReference :
    ∃ excess, fresh.resolveLinks ("\x7b@link " ++ longReferenceLink.body ++ "\x7d") =
      .error excess := by
  have hBody : longReferenceLink.body.toList =
      '&' :: '#' :: (List.replicate (Text.digitLimit + 1) '1' ++ [';']) := by
    simp [longReferenceLink]
  have hSource : ("\x7b@link " ++ longReferenceLink.body ++ "\x7d").toList =
      longReferenceLink.source [' '] := by
    simp [source, bracketed, braces, longReferenceLink, InlineTag.label]
  have hWritten : longReferenceLink.IsWritten [' '] :=
    ⟨⟨by simp, by simp, by rw [hBody]; rintro _ ⟨⟩; decide, by simp [hBody]⟩,
      by simp [longReferenceLink], by simp [longReferenceLink]⟩
  have hLong : longReferenceLink.HasLongReference := by
    refine .inl ⟨List.replicate (Text.digitLimit + 1) '1', ?_, ?_, by simp⟩
    · rw [hBody]
      exact ⟨[], [';'], by simp⟩
    · intro d hd
      rw [List.eq_of_mem_replicate hd]
      rfl
  have hNot := mt (html_isOk_iff fresh longReferenceLink).1 (not_not_intro hLong)
  rw [resolveLinks_of_source fresh hWritten hSource]
  cases hHtml : longReferenceLink.html fresh with
  | ok link => exact absurd ⟨link, hHtml⟩ hNot
  | error excess => exact ⟨excess, rfl⟩

end LinkRegistry

end DocSite

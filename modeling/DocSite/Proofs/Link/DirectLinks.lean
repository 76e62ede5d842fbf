import DocSite.Proofs.Link.InlineBodies
import DocSite.Proofs.Text.EscapeRoundTrip

/-! Inline links agree with direct links. In a text whose links are written clearly, with
targets and texts escaped, each link is replaced by the markup of the direct link to its
target and the text around the links is kept, whatever characters they hold and however
many links there are. Which direct link that is, is said by the registry alone: a tutorial,
the page of a name with a fragment on it, or the whole target. -/

namespace DocSite

open InlineLink

/-! ### Links made directly -/

theorem anchor_no_class (url : String) (label : Label) : anchor url none label =
    "<a href=\"" ++ Text.escape url ++ "\">" ++ label.html ++ "</a>" := by
  unfold anchor
  simp [← String.toList_inj]

namespace LinkRegistry

variable (r : LinkRegistry)

/-- A target that has no address itself leads into the page of the name before its last
hash, if that has one. -/
structure PointsInto (target name fragment : String) : Prop where
  urlFor_eq_none : r.urlFor target = none
  target_eq : target = name ++ "#" ++ fragment
  hash_not_mem : '#' ∉ fragment.toList
  isSome_urlFor : (r.urlFor name).isSome = true

variable {r}

theorem linkTarget_of_pointsInto {target name fragment : String}
    (h : r.PointsInto target name fragment) (label : Label) :
    r.linkTarget target label = r.linkTo name label none (some fragment) := by
  have hReverse : target.toList.reverse =
      fragment.toList.reverse ++ '#' :: name.toList.reverse := by
    simp [h.target_eq]
  have hHash : '#' ∉ fragment.toList.reverse := by simpa using h.hash_not_mem
  simp only [linkTarget, h.urlFor_eq_none, hReverse, List.span_eq_takeWhile_dropWhile,
    takeWhile_bne_append hHash, dropWhile_bne_append hHash]
  simp [h.isSome_urlFor]

theorem linkTarget_of_not_pointsInto {target : String}
    (h : ∀ name fragment, ¬ r.PointsInto target name fragment) (label : Label) :
    r.linkTarget target label = r.linkTo target label none none := by
  simp only [linkTarget, List.span_eq_takeWhile_dropWhile]
  split_ifs with hSome
  · rfl
  · by_cases hHash : '#' ∈ target.toList.reverse
    · obtain ⟨fragment, name, hEq, hNot⟩ := List.eq_append_cons_of_mem hHash
      rw [hEq, takeWhile_bne_append hNot, dropWhile_bne_append hNot]
      dsimp only
      split_ifs with hName
      · refine absurd ⟨by simpa using hSome, ?_, ?_, hName⟩
          (h (.ofList name.reverse) (.ofList fragment.reverse))
        · rw [← String.toList_inj, ← List.reverse_reverse target.toList, hEq]
          simp
        · simpa using hNot
      · rfl
    · rw [List.dropWhile_eq_nil_iff.2 (forall_bne_of_not_mem hHash)]

/-- A link to a target is its label, or an anchor with it. -/
theorem linkTarget_cases (r : LinkRegistry) (target : String) (label : Label) :
    r.linkTarget target label = label.html ∨
      ∃ url, r.linkTarget target label = anchor url none label := by
  have hLink (name : String) (fragment : Option String) :
      r.linkTo name label none fragment = label.html ∨
        ∃ url, r.linkTo name label none fragment = anchor url none label := by
    unfold linkTo
    split
    · exact .inl rfl
    · exact .inr ⟨_, rfl⟩
  by_cases h : ∃ name fragment, r.PointsInto target name fragment
  · obtain ⟨name, fragment, hInto⟩ := h
    rw [linkTarget_of_pointsInto hInto]
    exact hLink name (some fragment)
  · rw [linkTarget_of_not_pointsInto fun name fragment hInto => h ⟨name, fragment, hInto⟩]
    exact hLink target none

end LinkRegistry

/-! ### Links as they are written -/

/-- Where the text stands that a written link shows: nowhere, so that it shows its target,
behind a bar after the target, or in brackets before the braces. -/
inductive ShownText
  | target
  | afterBar (text : String)
  | inBrackets (text : String)
deriving DecidableEq, Repr

/-- Whether a written link can show a text: it is not empty, has no blanks at its ends if it
stands behind a bar, and none of the signs that would end it. A target without a bar after
it has no blanks inside. -/
def ShownText.Fits (target : String) : ShownText → Prop
  | .target => ∀ c ∈ target.toList, Text.isBlank c = false
  | .afterBar text => text ≠ "" ∧ Text.IsTrimmed text.toList ∧ '\x7d' ∉ text.toList
  | .inBrackets text => text ≠ "" ∧ ']' ∉ text.toList ∧
      ∀ c ∈ target.toList, Text.isBlank c = false

instance (target : String) : DecidablePred (ShownText.Fits target)
  | .target => List.decidableBAll _ target.toList
  | .afterBar _ => inferInstanceAs (Decidable (_ ∧ _ ∧ _))
  | .inBrackets _ => @instDecidableAnd _ _ _ (@instDecidableAnd _ _ _ (List.decidableBAll _ target.toList))

/-- An inline link with what its writer puts into it. -/
structure WrittenLink where
  tag : InlineTag
  blanks : String
  target : String
  shown : ShownText
deriving DecidableEq, Repr

namespace WrittenLink

variable (l : WrittenLink)

/-- A link that is written so that its target and its text can be told. -/
structure IsClear : Prop where
  blanks_ne : l.blanks ≠ ""
  isBlank : ∀ c ∈ l.blanks.toList, Text.isBlank c = true
  target_ne : l.target ≠ ""
  isTrimmed : Text.IsTrimmed l.target.toList
  bar_not_mem : '|' ∉ l.target.toList
  brace_not_mem : '\x7d' ∉ l.target.toList
  fits : l.shown.Fits l.target

instance : Decidable l.IsClear :=
  decidable_of_iff (l.blanks ≠ "" ∧ l.blanks.toList.all Text.isBlank = true ∧
      l.target ≠ "" ∧ Text.IsTrimmed l.target.toList ∧ '|' ∉ l.target.toList ∧
      '\x7d' ∉ l.target.toList ∧ l.shown.Fits l.target)
    ⟨fun ⟨h₁, h₂, h₃, h₄, h₅, h₆, h₇⟩ => ⟨h₁, List.all_eq_true.1 h₂, h₃, h₄, h₅, h₆, h₇⟩,
      fun ⟨h₁, h₂, h₃, h₄, h₅, h₆, h₇⟩ => ⟨h₁, List.all_eq_true.2 h₂, h₃, h₄, h₅, h₆, h₇⟩⟩

/-- The markup of a written link, in which target and text are escaped. -/
def source : String :=
  let opening := "\x7b@" ++ l.tag.label ++ l.blanks ++ Text.escape l.target
  match l.shown with
  | .target => opening ++ "\x7d"
  | .afterBar text => opening ++ "|" ++ Text.escape text ++ "\x7d"
  | .inBrackets text => "[" ++ Text.escape text ++ "]" ++ opening ++ "\x7d"

/-- What a written link shows. -/
def text : String :=
  match l.shown with
  | .target => l.target
  | .afterBar text | .inBrackets text => text

/-- What a written link shows, as the label of a direct link. -/
def label : Label := if l.tag = .linkcode then .code l.text else .plain l.text

/-- The direct link that stands for a written one: to a tutorial, into the page of a name, or
to the whole target. -/
inductive IsLinkedAs (r : LinkRegistry) : String → Prop
  | tutorial : l.tag = .tutorial → IsLinkedAs r (r.tutorialLink l.target l.label)
  | into {name fragment : String} : l.tag ≠ .tutorial → r.PointsInto l.target name fragment →
      IsLinkedAs r (r.linkTo name l.label none (some fragment))
  | whole : l.tag ≠ .tutorial → (∀ name fragment, ¬ r.PointsInto l.target name fragment) →
      IsLinkedAs r (r.linkTo l.target l.label none none)

/-- The body of a written link as it is meant. -/
def body : String :=
  match l.shown with
  | .target | .inBrackets _ => l.target
  | .afterBar text => l.target ++ "|" ++ text

/-- The text in brackets of a written link. -/
def caption : Option String :=
  match l.shown with
  | .target | .afterBar _ => none
  | .inBrackets text => some text

/-- What stands behind the bar of a written link. -/
def behindBar : String :=
  match l.shown with
  | .target | .inBrackets _ => ""
  | .afterBar text => text

/-- The inline link that is read where a written one stands. -/
def toInline : InlineLink := ⟨l.tag, l.caption.map Text.escape, Text.escape l.body⟩

theorem toList_source : l.source.toList = l.toInline.source l.blanks.toList := by
  have hBar : Text.escape "|" = "|" := by decide
  cases hShown : l.shown <;>
    simp [WrittenLink.source, toInline, InlineLink.source, bracketed, braces, caption, body, hShown,
      Text.escape_append, hBar]

theorem plain_toInline : l.toInline.plain = .ok ⟨l.tag, l.caption, l.body⟩ := by
  cases hShown : l.shown <;>
    simp only [toInline, plain, caption, hShown, Text.unescape_escape, Option.map_none,
      Option.map_some] <;> rfl

variable {l}

theorem isWritten_toInline (h : l.IsClear) : l.toInline.IsWritten l.blanks.toList where
  blanks_ne := by simpa using h.blanks_ne
  isBlank := h.isBlank
  body_head := by
    have hTarget : l.target.toList ≠ [] := by simpa using h.target_ne
    obtain ⟨d, cs, hCons⟩ := List.exists_cons_of_ne_nil hTarget
    have hHead : l.body.toList.head? = l.target.toList.head? := by
      cases hShown : l.shown <;> simp [body, hShown, hCons]
    exact Text.head?_escape fun c hc => h.isTrimmed.head c (hHead ▸ hc)
  brace_not_mem hMem := by
    have hBody := Text.mem_of_mem_escape (by decide) hMem
    have hFits := h.fits
    cases hShown : l.shown <;> rw [hShown] at hFits <;>
      simp_all [body, h.brace_not_mem, ShownText.Fits]
  caption_ne := by
    have hFits := h.fits
    cases hShown : l.shown <;> rw [hShown] at hFits <;> simp [toInline, caption, hShown]
    exact Text.escape_ne_empty hFits.1
  bracket_not_mem := by
    have hFits := h.fits
    cases hShown : l.shown <;> rw [hShown] at hFits <;> simp [toInline, caption, hShown]
    exact fun hMem => hFits.2.1 (Text.mem_of_mem_escape (by decide) hMem)

/-- The body of a written link is read as its target and what stands behind the bar. -/
theorem splitBody_body (h : l.IsClear) : splitBody l.body = (l.target, l.behindBar) := by
  have hFits := h.fits
  cases hShown : l.shown with
  | target =>
    rw [hShown] at hFits
    simpa [body, behindBar, hShown] using splitBody_target hFits h.bar_not_mem
  | afterBar text =>
    rw [hShown] at hFits
    obtain ⟨hNe, hText, -⟩ := hFits
    simpa [body, behindBar, hShown] using
      splitBody_bar h.isTrimmed hText h.target_ne hNe h.bar_not_mem
  | inBrackets text =>
    rw [hShown] at hFits
    simpa [body, behindBar, hShown] using splitBody_target hFits.2.2 h.bar_not_mem

/-- A written link shows its target exactly if nothing else is written to be shown. -/
theorem getD_shownText? (h : l.IsClear) :
    (shownText? ⟨l.tag, l.caption, l.body⟩).getD l.target = l.text := by
  have hFits := h.fits
  rw [shownText?, splitBody_body h]
  cases hShown : l.shown <;> rw [hShown] at hFits <;>
    simp [caption, behindBar, text, hShown, Option.filter] <;> simp_all [ShownText.Fits]

/-- The markup of a written link is that of its direct link. -/
theorem isLinkedAs_plainHtml (h : l.IsClear) (r : LinkRegistry) :
    l.IsLinkedAs r (plainHtml r ⟨l.tag, l.caption, l.body⟩) := by
  have hTarget := congrArg Prod.fst (splitBody_body h)
  have hText := getD_shownText? h
  have hLinked (hTag : l.tag ≠ .tutorial) : l.IsLinkedAs r (r.linkTarget l.target l.label) := by
    by_cases hInto : ∃ name fragment, r.PointsInto l.target name fragment
    · obtain ⟨name, fragment, hInto⟩ := hInto
      rw [LinkRegistry.linkTarget_of_pointsInto hInto]
      exact .into hTag hInto
    · have hNot : ∀ name fragment, ¬ r.PointsInto l.target name fragment :=
        fun name fragment h => hInto ⟨name, fragment, h⟩
      rw [LinkRegistry.linkTarget_of_not_pointsInto hNot]
      exact .whole hTag hNot
  simp only [plainHtml, hTarget, hText]
  cases hTag : l.tag with
  | tutorial =>
    have hLink : l.IsLinkedAs r (r.tutorialLink l.target l.label) := .tutorial hTag
    simpa [label, hTag] using hLink
  | _ => simpa [label, hTag] using hLinked (by simp [hTag])

theorem html_toInline (h : l.IsClear) (r : LinkRegistry) :
    ∃ link, l.IsLinkedAs r link ∧ l.toInline.html r = .ok link :=
  ⟨_, isLinkedAs_plainHtml h r, by rw [InlineLink.html, plain_toInline]; rfl⟩

end WrittenLink

/-! ### Texts with links -/

/-- A text with written links in it: each link with the text before it, and the text after
the last one. -/
structure LinkedText where
  pieces : List (String × WrittenLink)
  rest : String
deriving DecidableEq, Repr

namespace LinkedText

/-- The text with something in the place of each link. -/
def filled (t : LinkedText) (links : List String) : String :=
  String.join (List.zipWith (fun piece link => piece.1 ++ link) t.pieces links) ++ t.rest

/-- The text as it is written. -/
def source (t : LinkedText) : String := t.filled (t.pieces.map fun piece => piece.2.source)

/-- Every link is written clearly, and the text around the links opens none. -/
structure IsClear (t : LinkedText) : Prop where
  links : ∀ piece ∈ t.pieces, piece.2.IsClear
  texts : ∀ piece ∈ t.pieces, IsQuiet piece.1.toList
  rest : IsQuiet t.rest.toList

instance (t : LinkedText) : Decidable t.IsClear :=
  decidable_of_iff ((∀ piece ∈ t.pieces, piece.2.IsClear) ∧
      (∀ piece ∈ t.pieces, IsQuiet piece.1.toList) ∧ IsQuiet t.rest.toList)
    ⟨fun ⟨hLinks, hTexts, hRest⟩ => ⟨hLinks, hTexts, hRest⟩,
      fun ⟨hLinks, hTexts, hRest⟩ => ⟨hLinks, hTexts, hRest⟩⟩

@[simp] theorem filled_nil (rest : String) (links : List String) :
    filled ⟨[], rest⟩ links = rest := by
  simp [filled, String.join]

@[simp] theorem filled_cons (piece : String × WrittenLink) (pieces : List (String × WrittenLink))
    (rest link : String) (links : List String) :
    filled ⟨piece :: pieces, rest⟩ (link :: links) =
      piece.1 ++ (link ++ filled ⟨pieces, rest⟩ links) := by
  simp [filled, String.append_assoc]

end LinkedText

namespace LinkRegistry

variable (r : LinkRegistry)

/-- The markup of a text is that of its links with the characters around them. -/
theorem htmlOf_parts_source (t : LinkedText) (h : t.IsClear) :
    ∃ links, List.Forall₂ (fun piece link => piece.2.IsLinkedAs r link) t.pieces links ∧
      htmlOf r (parts t.source.toList) = .ok (t.filled links) := by
  obtain ⟨pieces, rest⟩ := t
  induction pieces with
  | nil =>
    have hParts := parts_append_of_isQuiet h.rest [] (by simp)
    refine ⟨[], .nil, ?_⟩
    rw [List.append_nil] at hParts
    simp only [LinkedText.source, LinkedText.filled_nil, hParts, htmlOf_chars_append]
    simp [htmlOf_nil, Except.map]
  | cons piece pieces ih =>
    obtain ⟨text, l⟩ := piece
    have hLink : l.IsClear := h.links _ List.mem_cons_self
    have hText : IsQuiet text.toList := h.texts _ List.mem_cons_self
    obtain ⟨links, hLinks, hLater⟩ := ih
      ⟨fun p hp => h.links p (List.mem_cons_of_mem _ hp),
        fun p hp => h.texts p (List.mem_cons_of_mem _ hp), h.rest⟩
    obtain ⟨link, hLinked, hHtml⟩ := l.html_toInline hLink r
    refine ⟨link :: links, .cons hLinked hLinks, ?_⟩
    have hSource : (LinkedText.source ⟨(text, l) :: pieces, rest⟩).toList = text.toList ++
        (l.toInline.source l.blanks.toList ++ (LinkedText.source ⟨pieces, rest⟩).toList) := by
      simp [LinkedText.source, l.toList_source]
    have hHead : (l.toInline.source l.blanks.toList ++
        (LinkedText.source ⟨pieces, rest⟩).toList).head? ≠ some '@' := by
      obtain ⟨inner, hBegin⟩ | ⟨inner, hBegin⟩ := l.toInline.source_cases l.blanks.toList <;>
        simp [hBegin]
    rw [hSource, parts_append_of_isQuiet hText _ hHead, parts_source (l.isWritten_toInline hLink),
      htmlOf_chars_append, htmlOf_cons, Part.html, hHtml, hLater]
    simp [Except.bind, Except.map]

/-- In a text whose links are written clearly, resolving the links puts the markup of the
direct link in the place of each and keeps all else. A text in which no at sign stands
behind an opening brace is kept as a whole. -/
theorem resolveLinks_links_directly :
    (∀ t : LinkedText, t.IsClear →
      ∃ links, List.Forall₂ (fun piece link => piece.2.IsLinkedAs r link) t.pieces links ∧
        r.resolveLinks t.source = .ok (t.filled links)) ∧
    ∀ text : String, ¬ ['\x7b', '@'] <:+: text.toList → r.resolveLinks text = .ok text := by
  refine ⟨fun t h => r.htmlOf_parts_source t h, fun text h => ?_⟩
  have hParts := htmlOf_chars_append r text.toList []
  rw [List.append_nil] at hParts
  rw [resolveLinks_eq, parts_of_no_opening h, hParts, htmlOf_nil]
  simp [Except.map]

/-- A text with a link of each form, in which signs of markup, of links and of targets stand
where they do not count. -/
def mixedText : LinkedText where
  pieces := [("\x7d see @\x7b", ⟨.link, " ", "a<b>[c#d", .target⟩),
    ("", ⟨.linkcode, "\n\t", "a & b", .afterBar "x | [y]"⟩),
    (" ]or ", ⟨.tutorial, "  ", "intro", .inBrackets "\x7b@link \"\x7d\""⟩)]
  rest := " \x7b"

theorem resolveLinks_mixedText :
    mixedText.IsClear ∧
      ∃ links,
        List.Forall₂ (fun piece link => piece.2.IsLinkedAs fresh link) mixedText.pieces links ∧
        fresh.resolveLinks mixedText.source = .ok (mixedText.filled links) := by
  have hClear : mixedText.IsClear := by decide +kernel
  exact ⟨hClear, (resolveLinks_links_directly fresh).1 mixedText hClear⟩

end LinkRegistry

end DocSite

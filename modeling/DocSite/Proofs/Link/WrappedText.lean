import DocSite.Proofs.Link.DirectLinks

/-! Links whose text is parted from the target by blanks. A body without a bar is cut at its
first space, and no other blank does as well: when a line is broken right behind the
target and no space stands there, the target runs on into the text. So such a link shows
its text and leads to its target exactly if a space is among the blanks between them. -/

namespace DocSite

open InlineLink

/-! ### Markup tells the label -/

theorem quote_not_mem_escape (s : String) : '"' ∉ (Text.escape s).toList :=
  fun h => (Text.isEscaped_escape s).no_sign _ h (by simp)

theorem angle_not_mem_escape (s : String) : '<' ∉ (Text.escape s).toList :=
  fun h => (Text.isEscaped_escape s).no_sign _ h (by simp)

/-- Two anchors alike have one text, since no escaped address has a quotation mark. -/
theorem text_eq_of_anchor {url url' s t : String}
    (h : anchor url none (.plain s) = anchor url' none (.plain t)) : s = t := by
  have hAnchor (url s : String) : (anchor url none (.plain s)).toList = "<a href=\"".toList ++
      ((Text.escape url).toList ++ '"' :: '>' :: ((Text.escape s).toList ++ "</a>".toList)) := by
    simp [anchor_no_class, Label.html]
  have hChars := congrArg String.toList h
  rw [hAnchor, hAnchor] at hChars
  have hQuote (s : String) : '"' ∉ '>' :: ((Text.escape s).toList ++ "</a>".toList) := by
    simp [quote_not_mem_escape]
  have hCut := (List.append_cons_inj_of_notMem (quote_not_mem_escape url) (hQuote s)).1
    (List.append_cancel_left hChars)
  have hText := List.append_cancel_right (List.cons_eq_cons.1 hCut.2.2).2
  exact Text.escape_injective (String.toList_inj.1 hText)

theorem escape_ne_anchor (s url : String) (label : Label) :
    Text.escape s ≠ anchor url none label := by
  intro h
  refine angle_not_mem_escape s ?_
  rw [h, anchor_no_class]
  simp

/-! ### Targets and texts with blanks between them -/

/-- A target and a text with blanks between them, as they may stand in a link: the target has
no blanks, the text none at its ends, and both are without the signs of a link. -/
structure IsWrapped (target blanks text : String) : Prop where
  target_ne : target ≠ ""
  no_blank : ∀ c ∈ target.toList, Text.isBlank c = false
  bar_not_mem_target : '|' ∉ target.toList
  brace_not_mem_target : '\x7d' ∉ target.toList
  text_ne : text ≠ ""
  isTrimmed : Text.IsTrimmed text.toList
  bar_not_mem_text : '|' ∉ text.toList
  brace_not_mem_text : '\x7d' ∉ text.toList
  blanks_ne : blanks ≠ ""
  isBlank : ∀ c ∈ blanks.toList, Text.isBlank c = true

namespace IsWrapped

variable {target blanks text : String}

theorem isTrimmed_body (h : IsWrapped target blanks text) :
    Text.IsTrimmed (target ++ blanks ++ text).toList := by
  simpa using (Text.isTrimmed_of_no_blank h.no_blank).append h.isTrimmed
    (by simpa using h.target_ne) (by simpa using h.text_ne) blanks.toList

theorem not_mem_body (h : IsWrapped target blanks text) {c : Char}
    (hTarget : c ∉ target.toList) (hText : c ∉ text.toList) (hc : Text.isBlank c = false) :
    c ∉ (target ++ blanks ++ text).toList := by
  have hBlanks : c ∉ blanks.toList := fun hMem => by simp [h.isBlank c hMem] at hc
  simp [hTarget, hText, hBlanks]

theorem bar_not_mem (h : IsWrapped target blanks text) :
    '|' ∉ (target ++ blanks ++ text).toList :=
  h.not_mem_body h.bar_not_mem_target h.bar_not_mem_text (by decide)

/-- What is written is one link. -/
theorem isWritten (h : IsWrapped target blanks text) :
    IsWritten ⟨.link, none, Text.escape (target ++ blanks ++ text)⟩ [' '] where
  blanks_ne := by simp
  isBlank := by simp
  body_head := Text.head?_escape h.isTrimmed_body.head
  brace_not_mem hMem := h.not_mem_body h.brace_not_mem_target h.brace_not_mem_text (by decide)
    (Text.mem_of_mem_escape (by decide) hMem)
  caption_ne := by simp
  bracket_not_mem := by simp

theorem space_not_mem_append (h : IsWrapped target blanks text) (hSpace : ' ' ∉ blanks.toList)
    {cs : List Char} (hText : ' ' ∉ cs) : ' ' ∉ target.toList ++ blanks.toList ++ cs := by
  rw [List.mem_append, List.mem_append, not_or, not_or]
  exact ⟨⟨space_not_mem h.no_blank, hSpace⟩, hText⟩

/-- Without a space among the blanks, a body is cut at the first space of its text. -/
theorem shownText?_of_text (h : IsWrapped target blanks text) (hSpace : ' ' ∉ blanks.toList)
    {before after : List Char} (hCut : text.toList = before ++ ' ' :: after)
    (hFirst : ' ' ∉ before) :
    shownText? ⟨.link, none, target ++ blanks ++ text⟩ = some (.ofList (Text.trimBoth after)) := by
  have hEq : (target ++ blanks ++ text).toList =
      (target.toList ++ blanks.toList ++ before) ++ ' ' :: after := by
    simp [hCut]
  have hBody := splitBody_of_toList h.isTrimmed_body hEq (separator_of_not_mem h.bar_not_mem)
    (h.space_not_mem_append hSpace hFirst)
  -- the text ends with no blank, so something follows its first space
  have hAfter : Text.trimBoth after ≠ [] := by
    cases hLast : after.getLast? with
    | none =>
      obtain rfl := List.getLast?_eq_none_iff.1 hLast
      have hBlank := h.isTrimmed.getLast ' ' (by simp [hCut])
      exact absurd hBlank (by decide)
    | some c =>
      refine Text.trimBoth_ne_nil (List.mem_of_mem_getLast? hLast) (h.isTrimmed.getLast c ?_)
      rw [hCut, List.getLast?_append_of_ne_nil _ (by simp), List.getLast?_cons, hLast]
      rfl
  simp [shownText?, hBody, Option.filter, hAfter]

/-- Without a space in it, a body is a target. -/
theorem splitBody_of_no_space (h : IsWrapped target blanks text) (hSpace : ' ' ∉ blanks.toList)
    (hText : ' ' ∉ text.toList) :
    splitBody (target ++ blanks ++ text) = (target ++ blanks ++ text, "") := by
  refine splitBody_of_not_mem h.isTrimmed_body ?_
  rw [separator_of_not_mem h.bar_not_mem, String.toList_append, String.toList_append]
  exact h.space_not_mem_append hSpace hText

/-- Without a space among the blanks, the link shows a part of its text or more than it. -/
theorem getD_shownText?_ne (h : IsWrapped target blanks text) (hSpace : ' ' ∉ blanks.toList) :
    (shownText? ⟨.link, none, target ++ blanks ++ text⟩).getD
      (splitBody (target ++ blanks ++ text)).1 ≠ text := by
  intro hSame
  by_cases hText : ' ' ∈ text.toList
  · obtain ⟨before, after, hCut, hFirst⟩ := List.eq_append_cons_of_mem hText
    rw [h.shownText?_of_text hSpace hCut hFirst, Option.getD_some] at hSame
    have hLength := congrArg (fun s => s.toList.length) hSame
    simp only [String.toList_ofList, hCut, List.length_append, List.length_cons] at hLength
    have hShorter := Text.length_trimBoth_le after
    omega
  · have hBody := h.splitBody_of_no_space hSpace hText
    have hShown : shownText? ⟨.link, none, target ++ blanks ++ text⟩ = none := by
      simp [shownText?, hBody, Option.filter]
    rw [hShown, Option.getD_none, hBody] at hSame
    have hLength := congrArg (fun s => s.toList.length) hSame
    simp only [String.toList_append, List.length_append] at hLength
    have hTarget : 0 < target.toList.length :=
      List.length_pos_of_ne_nil (by simpa using h.target_ne)
    omega

end IsWrapped

theorem resolveLinks_wrapped {target blanks text : String} (h : IsWrapped target blanks text)
    (r : LinkRegistry) :
    r.resolveLinks (Text.escape ("\x7b@link " ++ target ++ blanks ++ text ++ "\x7d")) =
      .ok (plainHtml r ⟨.link, none, target ++ blanks ++ text⟩) := by
  have hSource : (Text.escape ("\x7b@link " ++ target ++ blanks ++ text ++ "\x7d")).toList =
      source ⟨.link, none, Text.escape (target ++ blanks ++ text)⟩ [' '] := by
    have hOpening : Text.escape "\x7b@link " = "\x7b@link " := by decide
    have hClosing : Text.escape "\x7d" = "\x7d" := by decide
    simp [Text.escape_append, hOpening, hClosing, source, bracketed, braces, InlineTag.label]
  rw [resolveLinks_of_source r h.isWritten hSource]
  simp [InlineLink.html, InlineLink.plain]
  rfl

/-- A link to a registered target, with its text behind blanks, is the direct link with that
text exactly if one of the blanks is a space. -/
theorem resolveLinks_wrapped_eq_linkTo_iff {target blanks text : String}
    (h : IsWrapped target blanks text) (r : LinkRegistry)
    (hTarget : (r.urlFor target).isSome = true) :
    ∃ html, r.resolveLinks (Text.escape ("\x7b@link " ++ target ++ blanks ++ text ++ "\x7d")) =
        .ok html ∧
      (html = r.linkTo target (.plain text) none none ↔ ' ' ∈ blanks.toList) := by
  refine ⟨_, resolveLinks_wrapped h r, ?_⟩
  constructor
  · intro hLink
    by_contra hSpace
    have hText := h.getD_shownText?_ne hSpace
    obtain ⟨url, hUrl⟩ := Option.isSome_iff_exists.1 hTarget
    have hAnchor : r.linkTo target (.plain text) none none = anchor url none (.plain text) := by
      simp [LinkRegistry.linkTo, LinkRegistry.targetUrl?, hUrl, withFragment]
    rw [hAnchor] at hLink
    obtain hPlain | ⟨other, hOther⟩ := LinkRegistry.linkTarget_cases r
      (splitBody (target ++ blanks ++ text)).1 (.plain ((shownText?
        ⟨.link, none, target ++ blanks ++ text⟩).getD (splitBody (target ++ blanks ++ text)).1))
    · exact escape_ne_anchor _ url (.plain text) (hPlain.symm.trans hLink)
    · exact hText (text_eq_of_anchor (hOther.symm.trans hLink))
  · intro hSpace
    have hBody : splitBody (target ++ blanks ++ text) = (target, text) :=
      splitBody_space h.no_blank h.isTrimmed h.isBlank h.isTrimmed_body h.bar_not_mem hSpace
    have hShown : shownText? ⟨.link, none, target ++ blanks ++ text⟩ = some text := by
      simp [shownText?, hBody, Option.filter, h.text_ne]
    have hWhole (name fragment : String) : ¬ r.PointsInto target name fragment :=
      fun hInto => by simp [hInto.urlFor_eq_none] at hTarget
    simp only [plainHtml, hShown, hBody, Option.getD_some]
    exact LinkRegistry.linkTarget_of_not_pointsInto hWhole (.plain text)

/-- A registry with a page for one name. -/
def registryOfFoo : LinkRegistry := (LinkRegistry.fresh.register "Foo" none).2

theorem isWrapped_foo {blanks : String} (hNe : blanks ≠ "")
    (hBlank : ∀ c ∈ blanks.toList, Text.isBlank c = true) : IsWrapped "Foo" blanks "the foo" where
  target_ne := by decide
  no_blank := List.forall_iff_forall_mem.1 (by decide)
  bar_not_mem_target := by decide
  brace_not_mem_target := by decide
  text_ne := by decide
  isTrimmed := by decide
  bar_not_mem_text := by decide
  brace_not_mem_text := by decide
  blanks_ne := hNe
  isBlank := hBlank

theorem resolveLinks_wrapped_indented :
    IsWrapped "Foo" "\n  " "the foo" ∧ (registryOfFoo.urlFor "Foo").isSome = true ∧
      ∃ html, registryOfFoo.resolveLinks
          (Text.escape ("\x7b@link " ++ "Foo" ++ "\n  " ++ "the foo" ++ "\x7d")) = .ok html ∧
        (html = registryOfFoo.linkTo "Foo" (.plain "the foo") none none ↔
          ' ' ∈ "\n  ".toList) := by
  have hWrapped : IsWrapped "Foo" "\n  " "the foo" :=
    isWrapped_foo (by decide) (List.forall_iff_forall_mem.1 (by decide))
  have hTarget : (registryOfFoo.urlFor "Foo").isSome = true := by decide +kernel
  exact ⟨hWrapped, hTarget, resolveLinks_wrapped_eq_linkTo_iff hWrapped registryOfFoo hTarget⟩

/-- A line break alone does not part the text from the target: the link to the page is lost,
and so is the first word of its text. -/
theorem resolveLinks_wrapped_lineBreak :
    IsWrapped "Foo" "\n" "the foo" ∧
      registryOfFoo.resolveLinks
        (Text.escape ("\x7b@link " ++ "Foo" ++ "\n" ++ "the foo" ++ "\x7d")) = .ok "foo" ∧
      registryOfFoo.linkTo "Foo" (.plain "the foo") none none =
        "<a href=\"Foo.html\">the foo</a>" :=
  ⟨isWrapped_foo (by decide) (List.forall_iff_forall_mem.1 (by decide)), by decide +kernel,
    by decide +kernel⟩

end DocSite

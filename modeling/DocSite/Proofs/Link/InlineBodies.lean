import DocSite.Proofs.Link.InlineTags
import DocSite.Proofs.Text.EscapeRoundTrip
import Mathlib.Data.List.TakeDrop

/-! What the body of an inline link says. Blanks at the ends of a text are dropped and those
inside it kept. A body is cut at its first bar, or at its first space if it has no bar, and
both sides are trimmed; so a target is told from the text after it by a bar, wherever
blanks stand, but by no other blank than the space. -/

namespace DocSite

namespace Text

/-- A text that neither begins nor ends with a blank. -/
structure IsTrimmed (cs : List Char) : Prop where
  head : ∀ c ∈ cs.head?, isBlank c = false
  getLast : ∀ c ∈ cs.getLast?, isBlank c = false

theorem isTrimmed_iff (cs : List Char) : IsTrimmed cs ↔
    cs.head?.any isBlank = false ∧ cs.getLast?.any isBlank = false := by
  simp only [Option.any_eq_false]
  exact ⟨fun h => ⟨h.head, h.getLast⟩, fun h => ⟨h.1, h.2⟩⟩

instance (cs : List Char) : Decidable (IsTrimmed cs) := decidable_of_iff' _ (isTrimmed_iff cs)

@[simp] theorem isBlank_space : isBlank ' ' = true := by decide

theorem isTrimmed_of_no_blank {cs : List Char} (h : ∀ c ∈ cs, isBlank c = false) : IsTrimmed cs :=
  ⟨fun c hc => h c (List.mem_of_mem_head? hc), fun c hc => h c (List.mem_of_mem_getLast? hc)⟩

/-- What begins with one trimmed text and ends with another is trimmed. -/
theorem IsTrimmed.append {cs ds : List Char} (h : IsTrimmed cs) (h' : IsTrimmed ds)
    (hNe : cs ≠ []) (hNe' : ds ≠ []) (inner : List Char) : IsTrimmed (cs ++ (inner ++ ds)) where
  head c hc := h.head c (by rwa [List.head?_append_of_ne_nil _ hNe] at hc)
  getLast c hc := by
    have hInner : inner ++ ds ≠ [] := by simp [hNe']
    rw [List.getLast?_append_of_ne_nil _ hInner, List.getLast?_append_of_ne_nil _ hNe'] at hc
    exact h'.getLast c hc

theorem dropWhile_eq_self_of_head {p : Char → Bool} {cs : List Char}
    (h : ∀ c ∈ cs.head?, p c = false) : cs.dropWhile p = cs := by
  cases cs with
  | nil => rfl
  | cons c cs => rw [List.dropWhile_cons_of_neg (by simp [h c rfl])]

/-- Trimming takes away the blanks around a trimmed text and leaves the text. -/
theorem trimBoth_padded (lead trail : List Char) {cs : List Char} (h : IsTrimmed cs)
    (hLead : ∀ c ∈ lead, isBlank c = true) (hTrail : ∀ c ∈ trail, isBlank c = true) :
    trimBoth (lead ++ (cs ++ trail)) = cs := by
  have hStart : trimStart (lead ++ (cs ++ trail)) = trimStart (cs ++ trail) :=
    List.dropWhile_append_of_pos hLead
  have hEnd : trimEnd (cs ++ trail) = trimEnd cs := by
    rw [trimEnd, trimEnd, List.reverse_append,
      List.dropWhile_append_of_pos (by simpa using hTrail)]
  have hSelf : trimEnd cs = cs := by
    rw [trimEnd, dropWhile_eq_self_of_head (by simpa using h.getLast), List.reverse_reverse]
  rw [trimBoth, hStart]
  cases cs with
  | nil =>
    rw [List.nil_append, trimStart, List.dropWhile_eq_nil_iff.2 hTrail]
    rfl
  | cons c cs =>
    rw [trimStart, List.cons_append, List.dropWhile_cons_of_neg (by simp [h.head c rfl]),
      ← List.cons_append, hEnd, hSelf]

theorem trimBoth_of_isTrimmed {cs : List Char} (h : IsTrimmed cs) : trimBoth cs = cs := by
  simpa using trimBoth_padded [] [] h (by simp) (by simp)

theorem length_trimBoth_le (cs : List Char) : (trimBoth cs).length ≤ cs.length := by
  rw [trimBoth, trimEnd, List.length_reverse]
  calc ((trimStart cs).reverse.dropWhile isBlank).length
      ≤ (trimStart cs).reverse.length := (List.dropWhile_suffix _).length_le
    _ ≤ cs.length := by
      rw [List.length_reverse]
      exact (trimStart_suffix cs).length_le

/-- A text with a character that is no blank keeps something when it is trimmed. -/
theorem trimBoth_ne_nil {cs : List Char} {c : Char} (hMem : c ∈ cs) (h : isBlank c = false) :
    trimBoth cs ≠ [] := by
  intro hNil
  have hEnd : ∀ d ∈ trimStart cs, isBlank d = true := by
    have := List.dropWhile_eq_nil_iff.1 (List.reverse_eq_nil_iff.1 hNil)
    simpa using this
  have hAll : ∀ d ∈ cs, isBlank d = true := by
    have hSplit : cs.takeWhile isBlank ++ cs.dropWhile isBlank = cs :=
      List.takeWhile_append_dropWhile
    rw [← hSplit]
    intro d hd
    rcases List.mem_append.1 hd with hTaken | hLeft
    · exact List.mem_takeWhile_imp hTaken
    · exact hEnd d hLeft
  simp [hAll c hMem] at h

/-- Escaping puts no blank at the beginning of a text. -/
theorem head?_escape {s : String} (h : ∀ c ∈ s.toList.head?, isBlank c = false) :
    ∀ c ∈ (escape s).toList.head?, isBlank c = false := by
  rw [toList_escape]
  cases hList : s.toList with
  | nil => simp
  | cons d cs =>
    intro c hc
    obtain ⟨hSelf, -⟩ | ⟨reference, hMem, hEq⟩ := escapeChar_cases d
    · rw [List.flatMap_cons, hSelf, List.singleton_append] at hc
      exact h c (by rwa [hList])
    · have hHead : ∀ reference ∈ escapeReferences, reference.toList.head? = some '&' := by decide
      obtain ⟨inner, hInner⟩ := List.head?_eq_some_iff.1 (hHead reference hMem)
      obtain rfl : '&' = c := by simpa [hEq, hInner] using hc
      decide

end Text

namespace InlineLink

/-- The character that a body is cut at. -/
def separator (cs : List Char) : Char := if cs.contains '|' then '|' else ' '

theorem separator_of_mem {cs : List Char} (h : '|' ∈ cs) : separator cs = '|' := by
  simp [separator, h]

theorem separator_of_not_mem {cs : List Char} (h : '|' ∉ cs) : separator cs = ' ' := by
  simp [separator, h]

theorem splitBody_eq {body : String} (h : Text.IsTrimmed body.toList) :
    splitBody body =
      (.ofList (Text.trimBoth (body.toList.takeWhile (· != separator body.toList))),
        .ofList (Text.trimBoth (body.toList.dropWhile (· != separator body.toList)).tail)) := by
  rw [splitBody, Text.trimBoth_of_isTrimmed h, separator]
  simp only [List.span_eq_takeWhile_dropWhile]

/-- A body is cut at the first place of its separator. -/
theorem splitBody_of_toList {body : String} {before after : List Char} {c : Char}
    (h : Text.IsTrimmed body.toList) (hEq : body.toList = before ++ c :: after)
    (hSeparator : separator body.toList = c) (hNot : c ∉ before) :
    splitBody body = (.ofList (Text.trimBoth before), .ofList (Text.trimBoth after)) := by
  rw [splitBody_eq h, hSeparator, hEq, takeWhile_bne_append hNot, dropWhile_bne_append hNot,
    List.tail_cons]

/-- A body without its separator is a target. -/
theorem splitBody_of_not_mem {body : String} (h : Text.IsTrimmed body.toList)
    (hNot : separator body.toList ∉ body.toList) : splitBody body = (body, "") := by
  have hDrop : body.toList.dropWhile (· != separator body.toList) = [] :=
    List.dropWhile_eq_nil_iff.2 (forall_bne_of_not_mem hNot)
  rw [splitBody_eq h, takeWhile_bne_of_not_mem hNot, Text.trimBoth_of_isTrimmed h, hDrop,
    String.ofList_toList]
  rfl

section Forms
variable {target text blanks : String}

theorem space_not_mem {cs : List Char} (h : ∀ c ∈ cs, Text.isBlank c = false) : ' ' ∉ cs := by
  intro hMem
  have hSpace := h ' ' hMem
  simp at hSpace

/-- A target by itself, without blanks. -/
theorem splitBody_target (h : ∀ c ∈ target.toList, Text.isBlank c = false)
    (hBar : '|' ∉ target.toList) : splitBody target = (target, "") := by
  refine splitBody_of_not_mem (Text.isTrimmed_of_no_blank h) ?_
  rw [separator_of_not_mem hBar]
  exact space_not_mem h

/-- A target and a text with a bar between them. -/
theorem splitBody_bar (hTarget : Text.IsTrimmed target.toList) (hText : Text.IsTrimmed text.toList)
    (hTarget' : target ≠ "") (hText' : text ≠ "") (hBar : '|' ∉ target.toList) :
    splitBody (target ++ "|" ++ text) = (target, text) := by
  have hEq : (target ++ "|" ++ text).toList = target.toList ++ '|' :: text.toList := by simp
  have hTrimmed : Text.IsTrimmed (target ++ "|" ++ text).toList := by
    rw [hEq]
    exact hTarget.append hText (by simpa using hTarget') (by simpa using hText') ['|']
  rw [splitBody_of_toList hTrimmed hEq (separator_of_mem (by simp)) hBar,
    Text.trimBoth_of_isTrimmed hTarget, Text.trimBoth_of_isTrimmed hText, String.ofList_toList,
    String.ofList_toList]

/-- A target and a text with blanks between them, one of which is a space. -/
theorem splitBody_space (hTarget : ∀ c ∈ target.toList, Text.isBlank c = false)
    (hText : Text.IsTrimmed text.toList) (hBlanks : ∀ c ∈ blanks.toList, Text.isBlank c = true)
    (hTrimmed : Text.IsTrimmed (target ++ blanks ++ text).toList)
    (hBar : '|' ∉ (target ++ blanks ++ text).toList) (hSpace : ' ' ∈ blanks.toList) :
    splitBody (target ++ blanks ++ text) = (target, text) := by
  obtain ⟨lead, trail, hCut, hLead⟩ := List.eq_append_cons_of_mem hSpace
  rw [hCut] at hBlanks
  have hEq : (target ++ blanks ++ text).toList =
      (target.toList ++ lead) ++ ' ' :: (trail ++ text.toList) := by
    simp [hCut]
  have hFirst : ' ' ∉ target.toList ++ lead := by
    rw [List.mem_append, not_or]
    exact ⟨space_not_mem hTarget, hLead⟩
  have hTrimTarget : Text.trimBoth (target.toList ++ lead) = target.toList := by
    simpa using Text.trimBoth_padded [] lead (Text.isTrimmed_of_no_blank hTarget) (by simp)
      fun c hc => hBlanks c (by simp [hc])
  have hTrimText : Text.trimBoth (trail ++ text.toList) = text.toList := by
    simpa using Text.trimBoth_padded trail [] hText (fun c hc => hBlanks c (by simp [hc]))
      (by simp)
  rw [splitBody_of_toList hTrimmed hEq (separator_of_not_mem hBar) hFirst, hTrimTarget,
    hTrimText, String.ofList_toList, String.ofList_toList]

end Forms

end InlineLink

end DocSite

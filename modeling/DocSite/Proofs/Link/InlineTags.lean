import DocSite.Link.Inline
import Mathlib.Data.List.Infix
import Mathlib.Data.List.TakeWhile

/-! Where the inline links of a text stand. The grammar of a link is said by what is
written: a caption in brackets or nothing, then braces around an at sign, the name of a tag,
blanks and a body. A place of a text is read as a link exactly if a link is written there,
and then up to its closing brace. So a text is cut into links and characters of which
nothing is lost, and text around a link that opens no link itself stays apart from it. -/

namespace DocSite.InlineLink

/-! ### The grammar of a link -/

/-- What is written for a caption. -/
def bracketed : Option String → List Char
  | none => []
  | some caption => '[' :: (caption.toList ++ [']'])

/-- What is written for the braces of a link, with the blanks between its tag and its body. -/
def braces (l : InlineLink) (blanks : List Char) : List Char :=
  '\x7b' :: '@' :: (l.tag.label.toList ++ (blanks ++ (l.body.toList ++ ['\x7d'])))

/-- What is written for a link. -/
def source (l : InlineLink) (blanks : List Char) : List Char :=
  bracketed l.caption ++ l.braces blanks

/-- The conditions on the braces of a link: the tag has blanks behind it, and the body is
all that follows them up to the first closing brace. -/
structure HasBraces (l : InlineLink) (blanks : List Char) : Prop where
  blanks_ne : blanks ≠ []
  isBlank : ∀ c ∈ blanks, Text.isBlank c = true
  body_head : ∀ c ∈ l.body.toList.head?, Text.isBlank c = false
  brace_not_mem : '\x7d' ∉ l.body.toList

/-- The conditions on what is written for a link: besides those on its braces, a caption is
not empty and ends at the first closing bracket. -/
structure IsWritten (l : InlineLink) (blanks : List Char) : Prop extends HasBraces l blanks where
  caption_ne : l.caption ≠ some ""
  bracket_not_mem : ∀ caption ∈ l.caption, ']' ∉ caption.toList

/-! ### Tags -/

theorem takeWhile_append_of_head {p : Char → Bool} {cs rest : List Char}
    (h : ∀ c ∈ cs, p c = true) (hRest : ∀ c ∈ rest.head?, p c = false) :
    (cs ++ rest).takeWhile p = cs := by
  rw [List.takeWhile_append_of_pos h]
  cases rest with
  | nil => simp
  | cons c rest => simp [hRest c rfl]

theorem head?_dropWhile {p : Char → Bool} {cs : List Char} :
    ∀ c ∈ (cs.dropWhile p).head?, p c = false := by
  intro c hc
  have hHead := List.head?_dropWhile_not p cs
  rwa [Option.mem_def.1 hc] at hHead

/-- The name of a tag with blanks behind it, and what follows them. -/
def OpensTag (cs : List Char) (tag : InlineTag) (blanks rest : List Char) : Prop :=
  cs = tag.label.toList ++ (blanks ++ rest) ∧ blanks ≠ [] ∧
    (∀ c ∈ blanks, Text.isBlank c = true) ∧ ∀ c ∈ rest.head?, Text.isBlank c = false

theorem not_isBlank_of_mem_label (tag : InlineTag) :
    ∀ c ∈ tag.label.toList, Text.isBlank c = false := by
  cases tag <;> simp only [InlineTag.label] <;> exact List.forall_iff_forall_mem.1 (by decide)

theorem OpensTag.label_eq {cs blanks rest : List Char} {tag : InlineTag}
    (h : OpensTag cs tag blanks rest) :
    tag.label.toList = cs.takeWhile fun c => !Text.isBlank c := by
  obtain ⟨rfl, hNe, hBlanks, -⟩ := h
  have hHead : ∀ c ∈ (blanks ++ rest).head?, (!Text.isBlank c) = false := by
    intro c hc
    rw [List.head?_append_of_ne_nil _ hNe] at hc
    simp [hBlanks c (List.mem_of_mem_head? hc)]
  rw [takeWhile_append_of_head (by simpa using not_isBlank_of_mem_label tag) hHead]

/-- No two tags begin alike, since a blank ends the name of a tag. -/
theorem OpensTag.unique {cs blanks blanks' rest rest' : List Char} {tag tag' : InlineTag}
    (h : OpensTag cs tag blanks rest) (h' : OpensTag cs tag' blanks' rest') :
    tag = tag' ∧ blanks = blanks' ∧ rest = rest' := by
  have hTag : tag = tag' := by
    have hLabel := h.label_eq.trans h'.label_eq.symm
    revert hLabel
    cases tag <;> cases tag' <;> decide
  subst hTag
  obtain ⟨rfl, -, hBlanks, hRest⟩ := h
  obtain ⟨hEq, -, hBlanks', hRest'⟩ := h'
  have hEq' := List.append_cancel_left hEq
  have hTake : blanks = blanks' := by
    rw [← takeWhile_append_of_head hBlanks hRest, hEq', takeWhile_append_of_head hBlanks' hRest']
  subst hTake
  exact ⟨rfl, rfl, List.append_cancel_left hEq'⟩

theorem tagAt?_eq_some_iff {cs : List Char} {tag : InlineTag} {size : ℕ} :
    tagAt? cs = some (tag, size) ↔ ∃ blanks rest, OpensTag cs tag blanks rest ∧
      size = tag.label.length + blanks.length := by
  have hFound {tag : InlineTag} {size : ℕ} (h : tagAt? cs = some (tag, size)) :
      ∃ blanks rest, OpensTag cs tag blanks rest ∧ size = tag.label.length + blanks.length := by
    obtain ⟨other, -, hOther⟩ := List.exists_of_findSome?_eq_some h
    split at hOther
    next rest hPrefix =>
      dsimp only at hOther
      split_ifs at hOther with hBlanks
      obtain ⟨rfl, rfl⟩ := Prod.mk.inj (Option.some.inj hOther)
      refine ⟨rest.takeWhile Text.isBlank, rest.dropWhile Text.isBlank, ⟨?_, by simpa using hBlanks,
        fun c hc => List.mem_takeWhile_imp hc, head?_dropWhile⟩, rfl⟩
      rw [List.takeWhile_append_dropWhile]
      exact (List.append_eq_of_isPrefixOf?_eq_some hPrefix).symm
    next => simp at hOther
  refine ⟨hFound, ?_⟩
  rintro ⟨blanks, rest, hOpens, rfl⟩
  have hSome : (tagAt? cs).isSome = true := by
    obtain ⟨rfl, hNe, hBlanks, hRest⟩ := hOpens
    refine List.findSome?_isSome_iff.2 ⟨tag, by cases tag <;> decide, ?_⟩
    simp [List.isPrefixOf?_eq_some_iff_append_eq.2, takeWhile_append_of_head hBlanks hRest, hNe]
  obtain ⟨⟨tag', size'⟩, hTag⟩ := Option.isSome_iff_exists.1 hSome
  obtain ⟨blanks', rest', hOpens', rfl⟩ := hFound hTag
  obtain ⟨rfl, rfl, rfl⟩ := hOpens.unique hOpens'
  exact hTag

/-! ### Places of a text -/

theorem forall_bne_of_not_mem {d : Char} {cs : List Char} (h : d ∉ cs) :
    ∀ c ∈ cs, (c != d) = true := by
  intro c hc
  simpa using ne_of_mem_of_not_mem hc h

theorem takeWhile_bne_of_not_mem {d : Char} {cs : List Char} (h : d ∉ cs) :
    cs.takeWhile (· != d) = cs :=
  List.takeWhile_eq_self_iff.2 (forall_bne_of_not_mem h)

theorem takeWhile_bne_append {d : Char} {cs : List Char} (h : d ∉ cs) (rest : List Char) :
    (cs ++ d :: rest).takeWhile (· != d) = cs :=
  takeWhile_append_of_head (forall_bne_of_not_mem h) (by simp)

theorem dropWhile_bne_append {d : Char} {cs : List Char} (h : d ∉ cs) (rest : List Char) :
    (cs ++ d :: rest).dropWhile (· != d) = d :: rest := by
  rw [List.dropWhile_append_of_pos (forall_bne_of_not_mem h)]
  simp

theorem drop_label (tag : InlineTag) (blanks rest : List Char) :
    (tag.label.toList ++ (blanks ++ rest)).drop (tag.label.length + blanks.length) = rest := by
  rw [← String.length_toList, ← List.append_assoc, ← List.length_append, List.drop_left]

theorem length_braces (l : InlineLink) (blanks : List Char) :
    (l.braces blanks).length = l.tag.label.length + blanks.length + l.body.length + 3 := by
  simp only [braces, List.length_cons, List.length_append, List.length_nil, String.length_toList]
  omega

/-- Braces are read where they are written, and nowhere else. -/
theorem bracesAt?_eq_some_iff {caption : Option String} {cs : List Char} {l : InlineLink}
    {size : ℕ} : bracesAt? caption cs = some (l, size) ↔ l.caption = caption ∧
      ∃ blanks rest, l.HasBraces blanks ∧ cs = l.braces blanks ++ rest ∧
        size = (l.braces blanks).length := by
  constructor
  · intro h
    unfold bracesAt? at h
    split at h
    next cs =>
      split at h
      next tag size hTag =>
        obtain ⟨blanks, rest, ⟨rfl, hNe, hBlanks, hHead⟩, rfl⟩ := tagAt?_eq_some_iff.1 hTag
        dsimp only at h
        rw [drop_label, ← List.drop_drop, drop_label] at h
        by_cases hBrace : '\x7d' ∈ rest
        · obtain ⟨body, after, rfl, hBody⟩ := List.eq_append_cons_of_mem hBrace
          rw [takeWhile_bne_append hBody, List.drop_left] at h
          obtain ⟨rfl, rfl⟩ := Prod.mk.inj (Option.some.inj h)
          have hBraces : HasBraces ⟨tag, caption, .ofList body⟩ blanks := by
            refine ⟨hNe, hBlanks, fun c hc => hHead c ?_, by simpa using hBody⟩
            rw [String.toList_ofList] at hc
            rw [List.head?_append_of_ne_nil _ (List.ne_nil_of_mem (List.mem_of_mem_head? hc))]
            exact hc
          exact ⟨rfl, blanks, after, hBraces, by simp [braces], by simp [length_braces]⟩
        · rw [takeWhile_bne_of_not_mem hBrace, List.drop_length] at h
          exact absurd h (by simp)
      next => simp at h
    next => simp at h
  · rintro ⟨rfl, blanks, rest, hBraces, rfl, rfl⟩
    have hHead : ∀ c ∈ (l.body.toList ++ '\x7d' :: rest).head?, Text.isBlank c = false := by
      intro c hc
      cases hBody : l.body.toList with
      | nil =>
        rw [hBody] at hc
        obtain rfl : '\x7d' = c := by simpa using hc
        decide
      | cons d body =>
        rw [hBody] at hc
        exact hBraces.body_head c (by simpa [hBody] using hc)
    have hOpens : OpensTag (l.tag.label.toList ++ (blanks ++ (l.body.toList ++ '\x7d' :: rest)))
        l.tag blanks (l.body.toList ++ '\x7d' :: rest) :=
      ⟨rfl, hBraces.blanks_ne, hBraces.isBlank, hHead⟩
    have hTag := tagAt?_eq_some_iff.2 ⟨blanks, _, hOpens, rfl⟩
    simp only [braces, List.cons_append, List.append_assoc, List.nil_append, bracesAt?, hTag]
    rw [drop_label, ← List.drop_drop, drop_label, takeWhile_bne_append hBraces.brace_not_mem,
      List.drop_left]
    simp only [List.isEmpty_cons, Bool.false_eq_true, if_false, Option.some.injEq, Prod.mk.injEq,
      String.ofList_toList, List.length_cons, List.length_append, List.length_nil,
      String.length_toList, true_and]
    omega

theorem at?_bracket (rest : List Char) {caption : List Char} (h : ']' ∉ caption) :
    at? ('[' :: (caption ++ ']' :: rest)) = if caption = [] then none else
      (bracesAt? (some (.ofList caption)) rest).map
        fun (link, size) => (link, size + caption.length + 2) := by
  have hDrop : (caption ++ ']' :: rest).drop (caption.length + 1) = rest := by
    rw [← List.drop_drop, List.drop_left, List.drop_one, List.tail_cons]
  simp only [at?, takeWhile_bne_append h, hDrop, List.isEmpty_iff]

theorem at?_of_ne_bracket {cs : List Char} (h : cs.head? ≠ some '[') :
    at? cs = bracesAt? none cs := by
  unfold at?
  split
  · simp at h
  · rfl

theorem at?_of_unclosed {rest : List Char} (h : ']' ∉ rest) : at? ('[' :: rest) = none := by
  have hDrop : rest.drop (rest.length + 1) = [] := List.drop_eq_nil_of_le (Nat.le_succ _)
  simp [at?, takeWhile_bne_of_not_mem h, hDrop, bracesAt?]

/-- What is read as a link is written as one. -/
theorem exists_of_at? {cs : List Char} {l : InlineLink} {size : ℕ} (h : at? cs = some (l, size)) :
    ∃ blanks rest, l.IsWritten blanks ∧ cs = l.source blanks ++ rest ∧
      size = (l.source blanks).length := by
  by_cases hBracket : cs.head? = some '['
  · obtain ⟨inner, rfl⟩ := List.head?_eq_some_iff.1 hBracket
    by_cases hClose : ']' ∈ inner
    · obtain ⟨caption, rest, rfl, hCaption⟩ := List.eq_append_cons_of_mem hClose
      rw [at?_bracket rest hCaption] at h
      split_ifs at h with hEmpty
      obtain ⟨⟨link, size⟩, hBraces, hEq⟩ := Option.map_eq_some_iff.1 h
      obtain ⟨rfl, rfl⟩ := Prod.mk.inj hEq
      obtain ⟨hLink, blanks, rest, hHas, rfl, rfl⟩ := bracesAt?_eq_some_iff.1 hBraces
      have hWritten : link.IsWritten blanks :=
        ⟨hHas, by simpa [hLink] using hEmpty, by simpa [hLink] using hCaption⟩
      refine ⟨blanks, rest, hWritten, by simp [source, bracketed, hLink], ?_⟩
      simp only [source, bracketed, hLink, String.toList_ofList, List.length_append,
        List.length_cons, List.length_nil]
      omega
    · rw [at?_of_unclosed hClose] at h
      simp at h
  · rw [at?_of_ne_bracket hBracket] at h
    obtain ⟨hLink, blanks, rest, hHas, rfl, rfl⟩ := bracesAt?_eq_some_iff.1 h
    exact ⟨blanks, rest, ⟨hHas, by simp [hLink], by simp [hLink]⟩,
      by simp [source, bracketed, hLink], by simp [source, bracketed, hLink]⟩

/-- What is written as a link is read as it, whatever follows. -/
theorem at?_source {l : InlineLink} {blanks : List Char} (h : l.IsWritten blanks)
    (rest : List Char) :
    at? (l.source blanks ++ rest) = some (l, (l.source blanks).length) := by
  have hBraces : bracesAt? l.caption (l.braces blanks ++ rest) =
      some (l, (l.braces blanks).length) :=
    bracesAt?_eq_some_iff.2 ⟨rfl, blanks, rest, h.toHasBraces, rfl, rfl⟩
  cases hCaption : l.caption with
  | none =>
    rw [hCaption] at hBraces
    simp only [source, hCaption, bracketed, List.nil_append]
    rw [at?_of_ne_bracket (by simp [braces]), hBraces]
  | some caption =>
    rw [hCaption] at hBraces
    have hClosed := h.bracket_not_mem caption hCaption
    have hNe : caption.toList ≠ [] := by simpa [hCaption] using h.caption_ne
    simp only [source, hCaption, bracketed, List.cons_append, List.append_assoc, List.nil_append]
    rw [at?_bracket _ hClosed, if_neg hNe, String.ofList_toList, hBraces]
    simp only [Option.map_some, List.length_cons, List.length_append]
    congr 2
    omega

/-! ### The parts of a text -/

/-- Where a link is read, an at sign stands behind an opening brace. -/
theorem opening_infix_source (l : InlineLink) (blanks : List Char) :
    ['\x7b', '@'] <:+: l.source blanks :=
  ⟨bracketed l.caption, l.tag.label.toList ++ (blanks ++ (l.body.toList ++ ['\x7d'])),
    by simp [source, braces]⟩

theorem source_ne_nil (l : InlineLink) (blanks : List Char) : l.source blanks ≠ [] := by
  simp [source, braces]

theorem partsFrom_append {skipped : ℕ} {done : List Char} (h : done.length = skipped)
    (rest : List Char) : partsFrom skipped (done ++ rest) = parts rest := by
  induction done generalizing skipped with
  | nil => subst h; rfl
  | cons c cs ih =>
    subst h
    simpa [partsFrom] using ih rfl

/-- A link at the beginning of a text is its first part. -/
theorem parts_source {l : InlineLink} {blanks : List Char} (h : l.IsWritten blanks)
    (rest : List Char) : parts (l.source blanks ++ rest) = .link l :: parts rest := by
  have hRead := at?_source h rest
  obtain ⟨c, cs, hCons⟩ := List.exists_cons_of_ne_nil (l.source_ne_nil blanks)
  rw [hCons, List.cons_append] at hRead ⊢
  simp [parts, partsFrom, hRead, partsFrom_append]

theorem parts_cons {c : Char} {cs : List Char} (h : at? (c :: cs) = none) :
    parts (c :: cs) = .char c :: parts cs := by
  simp [parts, partsFrom, h]

/-- A text and its parts: characters at which no link is written, and links. -/
inductive Cuts : List Char → List Part → Prop
  | nil : Cuts [] []
  | char {c : Char} {cs : List Char} {ps : List Part} :
      at? (c :: cs) = none → Cuts cs ps → Cuts (c :: cs) (.char c :: ps)
  | link {l : InlineLink} {blanks rest : List Char} {ps : List Part} :
      l.IsWritten blanks → Cuts rest ps → Cuts (l.source blanks ++ rest) (.link l :: ps)

/-- A text is cut into its parts. -/
theorem cuts_parts (cs : List Char) : Cuts cs (parts cs) := by
  induction hLength : cs.length using Nat.strong_induction_on generalizing cs with
  | h n ih =>
    subst hLength
    cases cs with
    | nil => exact .nil
    | cons c cs =>
      cases hRead : at? (c :: cs) with
      | none =>
        rw [parts_cons hRead]
        exact .char hRead (ih cs.length (Nat.lt_succ_self _) cs rfl)
      | some found =>
        obtain ⟨blanks, rest, hWritten, hEq, -⟩ := exists_of_at? hRead
        have hLonger : 0 < (found.1.source blanks).length :=
          List.length_pos_of_ne_nil (source_ne_nil _ _)
        rw [hEq, parts_source hWritten]
        refine .link hWritten (ih rest.length ?_ rest rfl)
        rw [hEq, List.length_append]
        omega

/-- A text at none of whose places a link is read stands before the other parts. -/
theorem parts_append_of_none (cs rest : List Char)
    (h : ∀ before c after, cs = before ++ c :: after → at? (c :: (after ++ rest)) = none) :
    parts (cs ++ rest) = cs.map Part.char ++ parts rest := by
  induction cs with
  | nil => rfl
  | cons c cs ih =>
    have hTail := ih fun before d after hEq => h (c :: before) d after (by rw [hEq]; rfl)
    rw [List.cons_append, parts_cons (h [] c cs rfl), hTail]
    rfl

/-- A text that opens no link: it has no bracket, and no brace with an at sign behind it. -/
structure IsQuiet (cs : List Char) : Prop where
  bracket_not_mem : '[' ∉ cs
  no_opening : ¬ ['\x7b', '@'] <:+: cs

instance (cs : List Char) : Decidable (IsQuiet cs) :=
  decidable_of_iff ('[' ∉ cs ∧ ¬ ['\x7b', '@'] <:+: cs)
    ⟨fun h => ⟨h.1, h.2⟩, fun h => ⟨h.bracket_not_mem, h.no_opening⟩⟩

/-- A link begins with a bracket or with its braces. -/
theorem source_cases (l : InlineLink) (blanks : List Char) :
    (∃ cs, l.source blanks = '[' :: cs) ∨ ∃ cs, l.source blanks = '\x7b' :: '@' :: cs := by
  cases hCaption : l.caption with
  | none => exact .inr ⟨_, by rw [source, hCaption]; rfl⟩
  | some caption => exact .inl ⟨_, by rw [source, hCaption]; rfl⟩

/-- Text that opens no link stays apart from what follows it, unless an at sign follows. -/
theorem parts_append_of_isQuiet {cs : List Char} (h : IsQuiet cs) (rest : List Char)
    (hRest : rest.head? ≠ some '@') : parts (cs ++ rest) = cs.map Part.char ++ parts rest := by
  refine parts_append_of_none cs rest fun before c after hEq => ?_
  rw [Option.eq_none_iff_forall_ne_some]
  rintro ⟨l, size⟩ hRead
  obtain ⟨blanks, rest', -, hSource, -⟩ := exists_of_at? hRead
  obtain ⟨inner, hBegin⟩ | ⟨inner, hBegin⟩ := source_cases l blanks <;>
    rw [hBegin, List.cons_append, List.cons_eq_cons] at hSource
  · obtain ⟨rfl, -⟩ := hSource
    exact h.bracket_not_mem (by simp [hEq])
  · obtain ⟨rfl, hAt⟩ := hSource
    cases after with
    | nil =>
      rw [List.nil_append] at hAt
      exact hRest (by rw [hAt]; rfl)
    | cons d after =>
      obtain ⟨rfl, -⟩ := List.cons_eq_cons.1 hAt
      exact h.no_opening ⟨before, after, by simp [hEq]⟩

/-- Text in which no at sign stands behind an opening brace has no links. -/
theorem parts_of_no_opening {cs : List Char} (h : ¬ ['\x7b', '@'] <:+: cs) :
    parts cs = cs.map Part.char := by
  have hParts := parts_append_of_none cs [] fun before c after hEq => by
    rw [Option.eq_none_iff_forall_ne_some]
    rintro ⟨l, size⟩ hRead
    obtain ⟨blanks, rest, -, hSource, -⟩ := exists_of_at? hRead
    have hInfix : l.source blanks <:+: cs :=
      ⟨before, rest, by simp [hEq, ← hSource]⟩
    exact h ((opening_infix_source l blanks).trans hInfix)
  simpa using hParts

/-! ### The markup of parts -/

section Markup
variable (r : LinkRegistry)

/-- The markup of the parts of a text, one behind the other. -/
def htmlOf (ps : List Part) : Except Text.DigitExcess String :=
  (ps.mapM (Part.html r)).map String.join

theorem resolveLinks_eq (text : String) : r.resolveLinks text = htmlOf r (parts text.toList) := rfl

theorem htmlOf_nil : htmlOf r [] = .ok "" := rfl

theorem htmlOf_cons (p : Part) (ps : List Part) :
    htmlOf r (p :: ps) = (p.html r).bind fun shown => (htmlOf r ps).map (shown ++ ·) := by
  rw [htmlOf, htmlOf, List.mapM_cons]
  cases p.html r with
  | error e => rfl
  | ok shown =>
    cases ps.mapM (Part.html r) with
    | error e => rfl
    | ok later => exact congrArg Except.ok String.join_cons

theorem htmlOf_cons_eq_ok_iff {p : Part} {ps : List Part} {html : String} :
    htmlOf r (p :: ps) = .ok html ↔
      ∃ shown later, p.html r = .ok shown ∧ htmlOf r ps = .ok later ∧ html = shown ++ later := by
  rw [htmlOf_cons]
  cases p.html r <;> cases htmlOf r ps <;> simp [Except.bind, Except.map, eq_comm]

/-- Characters are kept as they are. -/
theorem htmlOf_chars_append (cs : List Char) (ps : List Part) :
    htmlOf r (cs.map Part.char ++ ps) = (htmlOf r ps).map (.ofList cs ++ ·) := by
  induction cs with
  | nil =>
    rw [List.map_nil, List.nil_append]
    cases htmlOf r ps <;> simp [Except.map]
  | cons c cs ih =>
    rw [List.map_cons, List.cons_append, htmlOf_cons, ih]
    cases htmlOf r ps with
    | error e => rfl
    | ok shown => simp [Part.html, Except.bind, Except.map, ← String.toList_inj]

/-- A text that is one link has the markup of the link. -/
theorem resolveLinks_of_source {l : InlineLink} {blanks : List Char} {text : String}
    (h : l.IsWritten blanks) (hText : text.toList = l.source blanks) :
    r.resolveLinks text = l.html r := by
  have hParts := parts_source h []
  rw [List.append_nil] at hParts
  rw [resolveLinks_eq, hText, hParts, parts_nil, htmlOf_cons, htmlOf_nil, Part.html]
  cases l.html r <;> simp [Except.bind, Except.map]

end Markup

end DocSite.InlineLink

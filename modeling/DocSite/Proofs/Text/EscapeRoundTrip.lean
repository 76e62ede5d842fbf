import DocSite.Text.Escape
import DocSite.Text.Reference
import Mathlib.Data.List.Infix
import Mathlib.Data.List.TakeWhile

/-! Escaped text. It has none of the signs that open or close markup, and an ampersand
begins one of five references, each of which is read back as its character; so reading
undoes escaping, whatever the text. The reader itself fails on one kind of text only, one
with a decimal reference of too many digits: no reference reaches over an ampersand, so
such a reference is met wherever it stands. -/

namespace DocSite.Text

/-! ### Reading back -/

theorem unescapeFrom_append {skipped : ℕ} {done : List Char} (h : done.length = skipped)
    (rest : List Char) : unescapeFrom skipped (done ++ rest) = unescapeFrom 0 rest := by
  induction done generalizing skipped with
  | nil => subst h; rfl
  | cons c cs ih =>
    subst h
    simpa [unescapeFrom] using ih rfl

/-- A reference is read as what it stands for, and the text goes on after it. -/
theorem unescapeFrom_reference (body rest : List Char) {shown : List Char}
    (h : reference? (body ++ rest) = .ok (some (shown, body.length))) :
    unescapeFrom 0 ('&' :: (body ++ rest)) = (unescapeFrom 0 rest).map (shown ++ ·) := by
  simp [unescapeFrom, h, unescapeFrom_append rfl]

/-- What is written for a character is read as that character. -/
theorem unescapeFrom_escapeChar (c : Char) (rest : List Char) :
    unescapeFrom 0 (escapeChar c ++ rest) = (unescapeFrom 0 rest).map (c :: ·) := by
  unfold escapeChar
  split
  case h_6 hAmpersand _ _ _ _ => exact unescapeFrom_cons_ne hAmpersand rest
  -- the three references with a name are looked up, the two with a number computed
  case h_1 =>
    have hName : namedText "amp;".toList = ['&'] := by decide +kernel
    exact unescapeFrom_reference "amp;".toList _ (by simpa [reference?, endsName, closing])
  case h_2 =>
    have hName : namedText "lt;".toList = ['<'] := by decide +kernel
    exact unescapeFrom_reference "lt;".toList _ (by simpa [reference?, endsName, closing])
  case h_3 =>
    have hName : namedText "gt;".toList = ['>'] := by decide +kernel
    exact unescapeFrom_reference "gt;".toList _ (by simpa [reference?, endsName, closing])
  case h_4 => exact unescapeFrom_reference "#39;".toList _ rfl
  case h_5 => exact unescapeFrom_reference "#34;".toList _ rfl

theorem unescapeFrom_flatMap_escapeChar (cs : List Char) :
    unescapeFrom 0 (cs.flatMap escapeChar) = .ok cs := by
  induction cs with
  | nil => rfl
  | cons c cs ih => rw [List.flatMap_cons, unescapeFrom_escapeChar, ih]; rfl

/-- An escaped text is read back as it was. -/
@[simp] theorem unescape_escape (s : String) : unescape (escape s) = .ok s := by
  rw [unescape, toList_escape, unescapeFrom_flatMap_escapeChar]
  simp [Except.map]

theorem escape_injective : Function.Injective escape := by
  intro s t h
  have hRead := congrArg unescape h
  simpa using hRead

/-! ### The signs of markup -/

/-- The references that escaped text is written with. -/
def escapeReferences : List String := ["&amp;", "&lt;", "&gt;", "&#34;", "&#39;"]

/-- A text without the signs of markup, in which every ampersand begins a reference. -/
structure IsEscaped (cs : List Char) : Prop where
  no_sign : ∀ c ∈ cs, c ∉ ['<', '>', '"', '\'']
  opens : ∀ before rest, cs = before ++ '&' :: rest →
    ∃ reference ∈ escapeReferences, reference.toList <+: '&' :: rest

theorem isEscaped_nil : IsEscaped [] := ⟨by simp, by simp⟩

theorem IsEscaped.append {cs ds : List Char} (h : IsEscaped cs) (h' : IsEscaped ds) :
    IsEscaped (cs ++ ds) where
  no_sign c hc := (List.mem_append.1 hc).elim (h.no_sign c) (h'.no_sign c)
  opens before rest hEq := by
    rcases List.append_eq_append_iff.1 hEq with ⟨inner, -, hEq'⟩ | ⟨inner, hEq', hRest⟩
    · exact h'.opens inner rest hEq'
    · cases inner with
      | nil => exact h'.opens [] rest hRest.symm
      | cons c inner =>
        obtain ⟨rfl, rfl⟩ := List.cons_eq_cons.1 hRest
        obtain ⟨reference, hMem, hPrefix⟩ := h.opens before inner hEq'
        exact ⟨reference, hMem, hPrefix.trans (List.prefix_append ('&' :: inner) ds)⟩

/-- What is written for a character: the character, if it is no sign of markup, or one of
the references. -/
theorem escapeChar_cases (c : Char) :
    (escapeChar c = [c] ∧ c ∉ ['&', '<', '>', '"', '\'']) ∨
      ∃ reference ∈ escapeReferences, escapeChar c = reference.toList := by
  unfold escapeChar
  split
  case h_6 => exact .inl ⟨rfl, by simp_all⟩
  all_goals exact .inr (by simp [escapeReferences])

theorem isEscaped_reference {reference : String} (h : reference ∈ escapeReferences) :
    IsEscaped reference.toList where
  no_sign := by
    simp only [escapeReferences, List.mem_cons, List.not_mem_nil, or_false] at h
    rcases h with rfl | rfl | rfl | rfl | rfl <;> simp
  opens before rest hEq := by
    -- a reference has its ampersand at its start and no other
    have hOnly : ∀ reference ∈ escapeReferences, '&' ∉ reference.toList.tail := by decide
    cases before with
    | nil => exact ⟨reference, h, hEq ▸ List.prefix_refl _⟩
    | cons c before => exact absurd (by simp [hEq]) (hOnly reference h)

theorem isEscaped_flatMap_escapeChar (cs : List Char) : IsEscaped (cs.flatMap escapeChar) := by
  induction cs with
  | nil => exact isEscaped_nil
  | cons c cs ih =>
    rw [List.flatMap_cons]
    refine .append ?_ ih
    obtain ⟨hSelf, hSign⟩ | ⟨reference, hMem, hEq⟩ := escapeChar_cases c
    · simp only [List.mem_cons, not_or] at hSign
      rw [hSelf]
      refine ⟨by simp_all, ?_⟩
      intro before rest hEq
      have hMem : '&' ∈ [c] := hEq ▸ List.mem_append_right before List.mem_cons_self
      exact absurd (List.mem_singleton.1 hMem).symm hSign.1
    · rw [hEq]
      exact isEscaped_reference hMem

theorem isEscaped_escape (s : String) : IsEscaped (escape s).toList := by
  rw [toList_escape]
  exact isEscaped_flatMap_escapeChar s.toList

/-- Escaping brings in no character but those of the references. -/
theorem mem_of_mem_escape {c : Char} {s : String}
    (h : ∀ reference ∈ escapeReferences, c ∉ reference.toList)
    (hMem : c ∈ (escape s).toList) : c ∈ s.toList := by
  rw [toList_escape, List.mem_flatMap] at hMem
  obtain ⟨d, hd, hc⟩ := hMem
  obtain ⟨hSelf, -⟩ | ⟨reference, hReference, hEq⟩ := escapeChar_cases d
  · rw [hSelf, List.mem_singleton] at hc
    exact hc ▸ hd
  · exact absurd (hEq ▸ hc) (h reference hReference)

theorem escape_ne_empty {s : String} (h : s ≠ "") : escape s ≠ "" :=
  fun hEmpty => h (escape_injective (hEmpty.trans escape_empty.symm))

/-! ### References that are too long -/

/-- A text that begins with a decimal reference of more digits than a number may have. -/
def OpensLongReference (cs : List Char) : Prop :=
  ∃ ds, '&' :: '#' :: ds <+: cs ∧ (∀ d ∈ ds, d.isDigit = true) ∧ digitLimit < ds.length

/-- A text with a decimal reference of more digits than a number may have. -/
def HasLongReference (cs : List Char) : Prop :=
  ∃ ds, '&' :: '#' :: ds <:+: cs ∧ (∀ d ∈ ds, d.isDigit = true) ∧ digitLimit < ds.length

theorem hasLongReference_cons {c : Char} {cs : List Char} :
    HasLongReference (c :: cs) ↔ OpensLongReference (c :: cs) ∨ HasLongReference cs := by
  simp only [HasLongReference, OpensLongReference, List.infix_cons_iff, or_and_right, exists_or]

theorem OpensLongReference.eq_ampersand {c : Char} {cs : List Char}
    (h : OpensLongReference (c :: cs)) : c = '&' := by
  obtain ⟨ds, hPrefix, -⟩ := h
  exact (List.cons_prefix_cons.1 hPrefix).1.symm

/-- Only the digits right behind the hash decide whether a reference is too long. -/
theorem opensLongReference_iff (cs : List Char) :
    OpensLongReference ('&' :: '#' :: cs) ↔ digitLimit < (cs.takeWhile Char.isDigit).length := by
  simp only [OpensLongReference, List.cons_prefix_cons, true_and]
  constructor
  · rintro ⟨ds, ⟨rest, rfl⟩, hDigits, hLimit⟩
    rw [List.takeWhile_append_of_pos hDigits, List.length_append]
    omega
  · intro hLimit
    exact ⟨_, List.takeWhile_prefix _, fun d hd => List.mem_takeWhile_imp hd, hLimit⟩

theorem hasLongReference_of_not_mem {done : List Char} (h : '&' ∉ done) (cs : List Char) :
    HasLongReference (done ++ cs) ↔ HasLongReference cs := by
  induction done with
  | nil => rfl
  | cons c done ih =>
    rw [List.mem_cons, not_or] at h
    have hOpens : ¬ OpensLongReference (c :: (done ++ cs)) :=
      fun hOpens => h.1 hOpens.eq_ampersand.symm
    rw [List.cons_append, hasLongReference_cons, ih h.2]
    simp [hOpens]

theorem isSome_digitValue?_ten (c : Char) : (digitValue? 10 c).isSome = c.isDigit := by
  have hDigit : c.isDigit = (decide ('0' ≤ c) && decide (c ≤ '9')) := rfl
  by_cases hTen : '0' ≤ c ∧ c ≤ '9'
  · have hValue : c.toNat - 48 < 10 := by
      have hLast : c.toNat ≤ 57 := hTen.2
      omega
    simp [digitValue?, hDigit, hTen, Option.filter, hValue]
  · have hOther : (decide ('0' ≤ c) && decide (c ≤ '9')) = false := by simpa using hTen
    rw [hDigit, hOther, digitValue?, hOther]
    split_ifs <;> simp_all [Option.filter]

theorem ampersand_not_mem_digits (base : ℕ) (cs : List Char) :
    '&' ∉ cs.takeWhile fun c => (digitValue? base c).isSome := by
  intro hMem
  have hDigit := List.mem_takeWhile_imp hMem
  simp [digitValue?] at hDigit

/-- The characters of a reference are its signs, its stem and perhaps a semicolon. -/
theorem ampersand_not_mem_take (signs : List Char) {stem cs : List Char} (hStem : stem <+: cs)
    (hSigns : '&' ∉ signs) (h : '&' ∉ stem) :
    '&' ∉ (signs ++ cs).take (signs.length + stem.length + closing (cs.drop stem.length)) := by
  obtain ⟨rest, rfl⟩ := hStem
  rw [List.drop_left, Nat.add_assoc, List.take_length_add_append, List.take_length_add_append,
    List.mem_append, List.mem_append, not_or, not_or]
  refine ⟨hSigns, h, ?_⟩
  unfold closing
  split
  next hHead =>
    cases rest with
    | nil => simp
    | cons c rest => simp_all
  next => simp

/-- A reading of what stands behind an ampersand fails only on a decimal reference that is
too long, and a reference reaches over no other ampersand. -/
def ReadsReference (cs : List Char) : Except DigitExcess (Option (List Char × ℕ)) → Prop
  | .error _ => OpensLongReference ('&' :: cs)
  | .ok none => ¬ OpensLongReference ('&' :: cs)
  | .ok (some (_, size)) => ¬ OpensLongReference ('&' :: cs) ∧ '&' ∉ cs.take size

theorem readsReference_numeric (cs : List Char) :
    ReadsReference ('#' :: cs) (reference? ('#' :: cs)) := by
  have hDecimal : (cs.takeWhile fun c => (digitValue? 10 c).isSome) =
      cs.takeWhile Char.isDigit := by
    simp only [isSome_digitValue?_ten]
  have hOpens := opensLongReference_iff cs
  rw [← hDecimal] at hOpens
  simp only [reference?, decimalValue]
  split_ifs with hSome hLimit
  · exact hOpens.2 hLimit
  · exact ⟨fun hLong => hLimit (hOpens.1 hLong), ampersand_not_mem_take ['#']
      (List.takeWhile_prefix _) (by decide) (ampersand_not_mem_digits 10 cs)⟩
  · have hShort : ¬ OpensLongReference ('&' :: '#' :: cs) := by
      have hNone : (cs.takeWhile fun c => (digitValue? 10 c).isSome) = [] := by simpa using hSome
      rw [hOpens, hNone]
      exact Nat.not_lt_zero _
    cases cs with
    | nil => exact hShort
    | cons x rest =>
      dsimp only
      split_ifs with hHex
      · have hMark : x = 'x' ∨ x = 'X' := by simpa using (Bool.and_eq_true_iff.1 hHex).1
        have hSign : '&' ∉ ['#', x] := by rcases hMark with rfl | rfl <;> decide
        exact ⟨hShort, ampersand_not_mem_take ['#', x] (List.takeWhile_prefix _) hSign
          (ampersand_not_mem_digits 16 rest)⟩
      · exact hShort

theorem readsReference_named {cs : List Char} (h : ∀ rest, cs ≠ '#' :: rest) :
    ReadsReference cs (reference? cs) := by
  have hShort : ¬ OpensLongReference ('&' :: cs) := by
    rintro ⟨ds, hPrefix, -⟩
    obtain ⟨rest, hRest⟩ := (List.cons_prefix_cons.1 hPrefix).2
    exact h _ hRest.symm
  have hStem : '&' ∉ (cs.takeWhile fun c => !endsName c).take 32 := by
    intro hMem
    have hName := List.mem_takeWhile_imp (List.mem_of_mem_take hMem)
    exact absurd hName (by decide)
  unfold reference?
  split
  next => exact absurd rfl (h _)
  next =>
    dsimp only
    split_ifs
    · exact hShort
    · refine ⟨hShort, ?_⟩
      have hTake := ampersand_not_mem_take []
        ((List.take_prefix _ _).trans (List.takeWhile_prefix _)) (by simp) hStem
      simpa using hTake

theorem readsReference_reference? (cs : List Char) : ReadsReference cs (reference? cs) := by
  by_cases h : ∃ rest, cs = '#' :: rest
  · obtain ⟨rest, rfl⟩ := h
    exact readsReference_numeric rest
  · exact readsReference_named fun rest hEq => h ⟨rest, hEq⟩

theorem exists_map_eq_ok_iff {ε α β : Type} (x : Except ε α) (f : α → β) :
    (∃ b, x.map f = .ok b) ↔ ∃ a, x = .ok a := by
  cases x <;> simp [Except.map]

/-- Reading a text fails exactly if it has a decimal reference of too many digits. -/
theorem unescapeFrom_isOk_iff (skipped : ℕ) (cs : List Char) :
    (∃ shown, unescapeFrom skipped cs = .ok shown) ↔ ¬ HasLongReference (cs.drop skipped) := by
  induction cs generalizing skipped with
  | nil => simp [HasLongReference]
  | cons c cs ih =>
    cases skipped with
    | succ skipped => exact ih skipped
    | zero =>
      rw [List.drop_zero, hasLongReference_cons, not_or]
      by_cases hAmpersand : c = '&'
      · subst hAmpersand
        have hReads := readsReference_reference? cs
        rcases hReference : reference? cs with excess | _ | ⟨shown, size⟩ <;>
          rw [hReference] at hReads
        · simp [unescapeFrom, hReference, show OpensLongReference ('&' :: cs) from hReads]
        · simp [unescapeFrom, hReference, exists_map_eq_ok_iff, ih 0,
            show ¬ OpensLongReference ('&' :: cs) from hReads]
        · have hRest := hasLongReference_of_not_mem hReads.2 (cs.drop size)
          rw [List.take_append_drop] at hRest
          simp [unescapeFrom, hReference, exists_map_eq_ok_iff, ih size, hReads.1, hRest]
      · have hShort : ¬ OpensLongReference (c :: cs) := fun h => hAmpersand h.eq_ampersand
        simp [unescapeFrom_cons_ne hAmpersand, exists_map_eq_ok_iff, ih 0, hShort]

theorem unescape_isOk_iff (s : String) :
    (∃ shown, unescape s = .ok shown) ↔ ¬ HasLongReference s.toList := by
  rw [unescape, exists_map_eq_ok_iff, unescapeFrom_isOk_iff, List.drop_zero]

end DocSite.Text

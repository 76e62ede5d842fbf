import DocSite.Json.Parser
import Mathlib.Data.List.Infix
import Mathlib.Data.List.TakeWhile

/-! Where the JSON reader meets a number of too many digits. Each reader leaves an end of the
text that it was given, so what it complains of stands in that text: there are as many
digits in a row as it says, and they are more than a number may have. -/

namespace DocSite

namespace Json

/-- A text with the digits in a row that are too many for a number. -/
def HasLongNumber (excess : Text.DigitExcess) (cs : List Char) : Prop :=
  Text.digitLimit < excess.digits ∧
    ∃ ds, ds <:+: cs ∧ (∀ d ∈ ds, d.isDigit = true) ∧ ds.length = excess.digits

/-- A reading of a text that leaves an end of it, and finds a number too long only if there is
one. -/
def ReadsWithin {α : Type} (cs : List Char) : Except Fault (α × List Char) → Prop
  | .ok (_, rest) => rest <:+ cs
  | .error (.digits excess) => HasLongNumber excess cs
  | .error _ => True

section Compose
variable {α β : Type} {cs cs' : List Char}

theorem HasLongNumber.mono {excess : Text.DigitExcess} (h : HasLongNumber excess cs)
    (hEnd : cs <:+ cs') : HasLongNumber excess cs' := by
  obtain ⟨hLimit, ds, hInfix, hDigits, hLength⟩ := h
  exact ⟨hLimit, ds, hInfix.trans hEnd.isInfix, hDigits, hLength⟩

theorem ReadsWithin.mono {reading : Except Fault (α × List Char)} (h : ReadsWithin cs reading)
    (hEnd : cs <:+ cs') : ReadsWithin cs' reading := by
  cases reading with
  | ok answer => exact List.IsSuffix.trans h hEnd
  | error fault =>
    cases fault with
    | digits excess => exact HasLongNumber.mono h hEnd
    | _ => trivial

theorem ReadsWithin.bind {x : Except Fault (α × List Char)}
    {f : α × List Char → Except Fault (β × List Char)} (h : ReadsWithin cs x)
    (hNext : ∀ a rest, rest <:+ cs → ReadsWithin rest (f (a, rest))) :
    ReadsWithin cs (x >>= f) := by
  cases x with
  | ok answer =>
    obtain ⟨a, rest⟩ := answer
    exact (hNext a rest h).mono h
  | error fault => cases fault <;> exact h

end Compose

/-! ### Strings -/

theorem readsWithin_codeUnit (cs : List Char) : ReadsWithin cs (codeUnit cs) := by
  unfold codeUnit
  split
  next a b c d e rest =>
    dsimp only
    split
    · exact List.suffix_append [a, b, c, d] (e :: rest)
    · trivial
  next => trivial

theorem readsWithin_lowSurrogate? (cs : List Char) : ReadsWithin cs
    ((lowSurrogate? cs).map fun low? => ((), (low?.map Prod.snd).getD cs)) := by
  unfold lowSurrogate?
  split
  next rest =>
    have hRest : rest <:+ '\\' :: 'u' :: rest := List.suffix_append ['\\', 'u'] rest
    have hUnit := (readsWithin_codeUnit rest).mono hRest
    split_ifs
    · exact List.suffix_refl _
    · cases hCode : codeUnit rest with
      | error fault =>
        rw [hCode] at hUnit
        cases fault <;> exact hUnit
      | ok answer =>
        obtain ⟨low, rest'⟩ := answer
        rw [hCode] at hUnit
        dsimp only
        split_ifs
        · exact hUnit
        · exact List.suffix_refl _
  next => exact List.suffix_refl _

theorem readsWithin_charOfUnit (unit : ℕ) (cs : List Char) :
    ReadsWithin cs (charOfUnit unit cs) := by
  have hLow := readsWithin_lowSurrogate? cs
  unfold charOfUnit
  split_ifs
  · cases hRead : lowSurrogate? cs with
    | error fault =>
      rw [hRead] at hLow
      cases fault <;> exact hLow
    | ok low? =>
      rw [hRead] at hLow
      cases low? with
      | none => exact List.suffix_refl cs
      | some answer =>
        obtain ⟨low, rest⟩ := answer
        have hRest : rest <:+ cs := hLow
        exact hRest
  · exact List.suffix_refl cs

theorem readsWithin_stringRest (read : List Char) (fuel : ℕ) (cs : List Char) :
    ReadsWithin cs (stringRest read fuel cs) := by
  induction fuel generalizing read cs with
  | zero => trivial
  | succ fuel ih =>
    cases cs with
    | nil => trivial
    | cons c cs =>
      have hTail : cs <:+ c :: cs := List.suffix_cons c cs
      unfold stringRest
      split_ifs
      · exact hTail
      · split
        next => trivial
        next rest =>
          have hRest : rest <:+ c :: 'u' :: rest := ((List.suffix_cons 'u' rest).trans hTail)
          refine ((readsWithin_codeUnit rest).bind fun unit rest' _ => ?_).mono hRest
          exact (readsWithin_charOfUnit unit rest').bind fun ch rest'' _ => ih _ _
        next e rest _ =>
          have hRest : rest <:+ c :: e :: rest := ((List.suffix_cons e rest).trans hTail)
          split
          · exact (ih _ rest).mono hRest
          · trivial
      · trivial
      · exact (ih _ cs).mono hTail

theorem readsWithin_string (cs : List Char) : ReadsWithin cs (string cs) :=
  readsWithin_stringRest [] _ cs

/-! ### Numbers -/

theorem isDigit_of_mem_digits {cs : List Char} {d : Char} (h : d ∈ (digits cs).1) :
    d.isDigit = true := by
  rw [digits, List.span_eq_takeWhile_dropWhile] at h
  exact List.mem_takeWhile_imp h

theorem digits_append (cs : List Char) : (digits cs).1 ++ (digits cs).2 = cs := by
  rw [digits, List.span_eq_takeWhile_dropWhile]
  exact List.takeWhile_append_dropWhile

theorem suffix_of_fraction {cs : List Char} {answer : List Char × List Char}
    (h : fraction cs = some answer) : answer.2 <:+ cs := by
  unfold fraction at h
  split at h
  next rest =>
    dsimp only at h
    split_ifs at h
    obtain rfl := Option.some.inj h
    exact ⟨'.' :: (digits rest).1, by rw [List.cons_append, digits_append]⟩
  next => contradiction

theorem suffix_of_exponent {cs : List Char} {answer : Int × List Char}
    (h : exponent cs = some answer) : answer.2 <:+ cs := by
  unfold exponent at h
  split at h
  next e rest =>
    split_ifs at h
    split at h
    next negative after hSign =>
      -- a sign may stand before the digits
      have hAfter : after <:+ rest := by
        split at hSign <;> obtain ⟨-, rfl⟩ := Prod.mk.inj hSign
        · exact List.suffix_cons _ _
        · exact List.suffix_cons _ _
        · exact List.suffix_refl _
      have hDigits : (digits after).2 <:+ after := ⟨(digits after).1, digits_append after⟩
      dsimp only at h
      split_ifs at h <;> obtain rfl := Option.some.inj h <;>
        exact (hDigits.trans hAfter).trans (List.suffix_cons e rest)
  next => contradiction

/-- A number is too long only if its digits are in the text. -/
theorem readsWithin_unsignedNumber (negative : Bool) (cs : List Char) :
    ReadsWithin cs (unsignedNumber negative cs) := by
  unfold unsignedNumber
  split
  next ds rest hWhole =>
    have hText : ds ++ rest = cs ∧ ∀ d ∈ ds, d.isDigit = true := by
      split at hWhole
      · obtain ⟨rfl, rfl⟩ := Prod.mk.inj hWhole
        exact ⟨rfl, by simp⟩
      · have hDigits : (digits cs).1 = ds := congrArg Prod.fst hWhole
        have hRest : (digits cs).2 = rest := congrArg Prod.snd hWhole
        exact ⟨by rw [← hDigits, ← hRest, digits_append],
          fun d hd => isDigit_of_mem_digits (hDigits.symm ▸ hd)⟩
    obtain ⟨hAppend, hDigits⟩ := hText
    have hRest : rest <:+ cs := ⟨ds, hAppend⟩
    have hFraction : ((fraction rest).map Prod.snd).getD rest <:+ cs := by
      cases hRead : fraction rest with
      | none => exact hRest
      | some answer => exact (suffix_of_fraction hRead).trans hRest
    dsimp only
    generalize ((fraction rest).map Prod.snd).getD rest = rest₁ at hFraction ⊢
    have hPower : ((exponent rest₁).map Prod.snd).getD rest₁ <:+ cs := by
      cases hRead : exponent rest₁ with
      | none => exact hFraction
      | some answer => exact (suffix_of_exponent hRead).trans hFraction
    generalize ((exponent rest₁).map Prod.snd).getD rest₁ = rest₂ at hPower ⊢
    split
    · trivial
    · split
      · by_cases hLimit : Text.digitLimit < ds.length
        · rw [Text.decimalValue, if_pos hLimit]
          exact ⟨hLimit, ds, ⟨[], rest, hAppend⟩, hDigits, rfl⟩
        · rw [Text.decimalValue, if_neg hLimit]
          exact hPower
      · exact hPower

/-! ### Values -/

theorem readsWithin_atom (cs : List Char) : ReadsWithin cs (atom cs) := by
  unfold atom
  split
  next answer hWord =>
    obtain ⟨⟨name, value⟩, -, hFound⟩ := List.exists_of_findSome?_eq_some hWord
    obtain ⟨rest, hPrefix, rfl⟩ := Option.map_eq_some_iff.1 hFound
    exact ⟨name.toList, List.isPrefixOf?_eq_some_iff_append_eq.1 hPrefix⟩
  next =>
    split
    next rest _ =>
      refine ReadsWithin.mono ?_ (List.suffix_cons _ rest)
      exact (readsWithin_string rest).bind fun _ rest' _ => List.suffix_refl rest'
    next rest _ => exact (readsWithin_unsignedNumber true rest).mono (List.suffix_cons _ _)
    next => exact readsWithin_unsignedNumber false cs

theorem skipSpace_suffix (cs : List Char) : skipSpace cs <:+ cs := List.dropWhile_suffix _

/-- What is read after blanks and then another character. -/
theorem ReadsWithin.afterSpace {α : Type} {cs rest : List Char} {c : Char}
    {reading : Except Fault (α × List Char)} (h : ReadsWithin rest reading)
    (hSpace : skipSpace cs = c :: rest) : ReadsWithin cs reading := by
  have hRest : rest <:+ skipSpace cs := hSpace ▸ List.suffix_cons c rest
  exact h.mono (hRest.trans (skipSpace_suffix cs))

mutual

theorem readsWithin_value : ∀ (fuel : ℕ) (cs : List Char), ReadsWithin cs (value fuel cs)
  | 0, _ => by
    rw [value]
    trivial
  | fuel + 1, cs => by
    rw [value.eq_def]
    dsimp only
    split
    next rest =>
      refine ReadsWithin.mono ?_ (List.suffix_cons '[' rest)
      split
      next after hClose => exact ReadsWithin.afterSpace (List.suffix_refl after) hClose
      next =>
        refine ReadsWithin.mono ?_ (skipSpace_suffix rest)
        exact (readsWithin_items fuel _).bind fun _ after _ => List.suffix_refl after
    next rest =>
      refine ReadsWithin.mono ?_ (List.suffix_cons '\x7b' rest)
      split
      next after hClose => exact ReadsWithin.afterSpace (List.suffix_refl after) hClose
      next =>
        refine ReadsWithin.mono ?_ (skipSpace_suffix rest)
        exact (readsWithin_entries fuel [] _).bind fun _ after _ => List.suffix_refl after
    next => exact readsWithin_atom cs

theorem readsWithin_items : ∀ (fuel : ℕ) (cs : List Char), ReadsWithin cs (items fuel cs)
  | 0, _ => by
    rw [items]
    trivial
  | fuel + 1, cs => by
    rw [items]
    refine (readsWithin_value fuel cs).bind fun item rest _ => ?_
    dsimp only
    split
    next after hClose => exact ReadsWithin.afterSpace (List.suffix_refl after) hClose
    next after hComma =>
      refine ReadsWithin.afterSpace ?_ hComma
      refine ReadsWithin.mono ?_ (skipSpace_suffix after)
      exact (readsWithin_items fuel _).bind fun _ after _ => List.suffix_refl after
    next => trivial

theorem readsWithin_entries : ∀ (fuel : ℕ) (read : List (Datum × Datum)) (cs : List Char),
    ReadsWithin cs (entries fuel read cs)
  | 0, _, _ => by
    rw [entries]
    trivial
  | fuel + 1, read, cs => by
    rw [entries.eq_def]
    dsimp only
    split
    next rest =>
      refine ReadsWithin.mono ?_ (List.suffix_cons '"' rest)
      refine (readsWithin_string rest).bind fun name rest _ => ?_
      dsimp only
      split
      next after hColon =>
        refine ReadsWithin.afterSpace ?_ hColon
        refine ReadsWithin.mono ?_ (skipSpace_suffix after)
        refine (readsWithin_value fuel _).bind fun val rest _ => ?_
        dsimp only
        split
        next after hClose => exact ReadsWithin.afterSpace (List.suffix_refl after) hClose
        next after hComma =>
          refine ReadsWithin.afterSpace ?_ hComma
          exact (readsWithin_entries fuel _ _).mono (skipSpace_suffix after)
        next => trivial
      next => trivial
    next => trivial

end

/-- A text that is refused for a number of too many digits has these digits. -/
theorem hasLongNumber_of_parse {cs : List Char} {excess : Text.DigitExcess}
    (h : parse cs = .error (.digits excess)) : HasLongNumber excess cs := by
  unfold parse at h
  split at h
  next => simp at h
  next =>
    have hValue := (readsWithin_value (2 * cs.length + 2) (skipSpace cs)).mono
      (skipSpace_suffix cs)
    cases hRead : value (2 * cs.length + 2) (skipSpace cs) with
    | error fault =>
      rw [hRead] at h hValue
      obtain rfl : fault = .digits excess := Except.error.inj h
      exact hValue
    | ok answer =>
      obtain ⟨val, rest⟩ := answer
      have hEnd : (if (skipSpace rest).isEmpty then pure val else throw .extraData) =
          (.error (.digits excess) : Except Fault Datum) := by
        rw [hRead] at h
        exact h
      split_ifs at hEnd <;> cases hEnd

end Json

end DocSite

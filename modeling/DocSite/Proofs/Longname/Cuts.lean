import DocSite.Longname
import Mathlib.Algebra.Group.Nat.Even

/-! Where a longname is cut. The joints are found in one pass from the beginning that turns at
every double quote, and the variation in one pass from the end that counts parentheses. Said
without the passes: a joint is a sign, not the first character, with an even number of quotes
before it; a variation is what stands between the last parenthesis and the one that it closes.
So the parts of a longname make up the longname, and its last name holds no further joint. -/

namespace DocSite

namespace Longname

/-! ### Quotes -/

/-- Whether a text that begins within quotes, or outside of them, ends within quotes. -/
def endsQuoted (inQuotes : Bool) (cs : List Char) : Bool :=
  cs.foldl (fun quoted c => if c == '"' then !quoted else quoted) inQuotes

@[simp] theorem endsQuoted_nil (inQuotes : Bool) : endsQuoted inQuotes [] = inQuotes := rfl

@[simp] theorem endsQuoted_cons (inQuotes : Bool) (c : Char) (cs : List Char) :
    endsQuoted inQuotes (c :: cs) = endsQuoted (if c == '"' then !inQuotes else inQuotes) cs := rfl

/-- A text ends as it begins exactly if its quotes come in pairs. -/
theorem endsQuoted_eq_false_iff {inQuotes : Bool} {cs : List Char} :
    endsQuoted inQuotes cs = false ↔ (inQuotes = false ↔ Even (cs.count '"')) := by
  induction cs generalizing inQuotes with
  | nil => simp
  | cons c cs ih =>
    rw [endsQuoted_cons, ih]
    by_cases hc : c = '"'
    · subst hc
      rw [List.count_cons_self, Nat.even_add_one]
      cases inQuotes <;> simp
    · simp [hc]

/-! ### Joints -/

/-- A sign outside of quotes opens a joint, unless nothing stands before it. -/
theorem jointsFrom_of_sign {before : List Char} (h : before ≠ []) {c : Char} {scope : Scope}
    (hSign : Scope.ofPunctuation? c = some scope) (cs : List Char) :
    jointsFrom before false (c :: cs) =
      ⟨before.reverse, scope, cs⟩ :: jointsFrom (c :: before) false cs := by
  have hQuote : c ≠ '"' := by
    rintro rfl
    simp [Scope.ofPunctuation?] at hSign
  simp [jointsFrom, hQuote, h, hSign]

/-- The next character opens a joint, or it goes to what was read before. -/
theorem jointsFrom_cons (before : List Char) (inQuotes : Bool) (c : Char) (cs : List Char) :
    (∃ q, jointsFrom before inQuotes (c :: cs) = jointsFrom (c :: before) q cs) ∨
      before ≠ [] ∧ ∃ scope, jointsFrom before inQuotes (c :: cs) =
        ⟨before.reverse, scope, cs⟩ :: jointsFrom (c :: before) false cs := by
  by_cases hQuote : c = '"'
  · exact .inl ⟨!inQuotes, by simp [jointsFrom, hQuote]⟩
  · cases hSign : Scope.ofPunctuation? c with
    | none => exact .inl ⟨inQuotes, by simp [jointsFrom, hQuote, hSign]⟩
    | some scope =>
      cases inQuotes with
      | true => exact .inl ⟨true, by simp [jointsFrom, hQuote]⟩
      | false =>
        by_cases hBefore : before = []
        · exact .inl ⟨false, by simp [jointsFrom, hQuote, hBefore]⟩
        · exact .inr ⟨hBefore, scope, jointsFrom_of_sign hBefore hSign cs⟩

/-- What stands before a joint is not less than what was read, and not empty. -/
theorem length_le_of_mem_jointsFrom {before : List Char} {inQuotes : Bool} {cs : List Char}
    {j : Joint} (h : j ∈ jointsFrom before inQuotes cs) :
    before.length ≤ j.before.length ∧ j.before ≠ [] := by
  induction cs generalizing before inQuotes with
  | nil => simp [jointsFrom] at h
  | cons c cs ih =>
    obtain ⟨q, hEq⟩ | ⟨hBefore, scope, hEq⟩ := jointsFrom_cons before inQuotes c cs
    · obtain ⟨hLength, hNonempty⟩ := ih (hEq ▸ h)
      rw [List.length_cons] at hLength
      exact ⟨by omega, hNonempty⟩
    · rw [hEq] at h
      rcases List.mem_cons.1 h with rfl | h
      · simpa using hBefore
      · obtain ⟨hLength, hNonempty⟩ := ih h
        rw [List.length_cons] at hLength
        exact ⟨by omega, hNonempty⟩

theorem pairwise_jointsFrom (before : List Char) (inQuotes : Bool) (cs : List Char) :
    (jointsFrom before inQuotes cs).Pairwise fun i j => i.before.length < j.before.length := by
  induction cs generalizing before inQuotes with
  | nil => exact .nil
  | cons c cs ih =>
    obtain ⟨q, hEq⟩ | ⟨-, scope, hEq⟩ := jointsFrom_cons before inQuotes c cs
    · rw [hEq]
      exact ih _ _
    · rw [hEq, List.pairwise_cons]
      refine ⟨fun j hj => ?_, ih _ _⟩
      have hLength := (length_le_of_mem_jointsFrom hj).1
      rw [List.length_cons] at hLength
      rw [List.length_reverse]
      omega

/-- A joint of a text that goes on. -/
def Joint.extend (j : Joint) (more : List Char) : Joint := { j with after := j.after ++ more }

@[simp] theorem Joint.before_extend (j : Joint) (more : List Char) :
    (j.extend more).before = j.before := rfl

/-- The joints of a text are those of its beginning, and those of the rest after it. -/
theorem jointsFrom_append (before : List Char) (inQuotes : Bool) (cs more : List Char) :
    jointsFrom before inQuotes (cs ++ more) =
      (jointsFrom before inQuotes cs).map (·.extend more) ++
        jointsFrom (cs.reverse ++ before) (endsQuoted inQuotes cs) more := by
  induction cs generalizing before inQuotes with
  | nil => rfl
  | cons c cs ih =>
    rw [List.cons_append, jointsFrom, jointsFrom, List.reverse_cons, List.append_assoc,
      List.singleton_append, endsQuoted_cons, ih, ih]
    by_cases hQuote : c = '"'
    · simp [hQuote]
    · cases hSign : Scope.ofPunctuation? c <;> cases inQuotes <;> cases before <;>
        simp [hQuote, Joint.extend]

theorem even_count_of_mem_jointsFrom {before : List Char} {inQuotes : Bool} {cs : List Char}
    (hQuotes : inQuotes = false ↔ Even (before.count '"')) {j : Joint}
    (h : j ∈ jointsFrom before inQuotes cs) : Even (j.before.count '"') := by
  induction cs generalizing before inQuotes with
  | nil => simp [jointsFrom] at h
  | cons c cs ih =>
    by_cases hQuote : c = '"'
    · subst hQuote
      have hTurned : (!inQuotes) = false ↔ Even (List.count '"' ('"' :: before)) := by
        rw [List.count_cons_self, Nat.even_add_one, ← hQuotes]
        cases inQuotes <;> simp
      exact ih hTurned (by simpa [jointsFrom] using h)
    · have hSame : inQuotes = false ↔ Even (List.count '"' (c :: before)) := by
        rwa [List.count_cons_of_ne hQuote]
      simp only [jointsFrom, beq_iff_eq, hQuote, if_false] at h
      split at h
      · exact ih hSame h
      · next hOutside =>
        split at h
        · rcases List.mem_cons.1 h with rfl | h
          · rw [List.count_reverse]
            have hBoth : inQuotes = false ∧ before ≠ [] := by simpa using hOutside
            exact hQuotes.1 hBoth.1
          · exact ih hSame h
        · exact ih hSame h

/-- A sign that is not the first character, with an even number of quotes before it, is a joint.
All that is known of joints from the reading of a text follows from this equation. -/
theorem joints_append_sign {before : List Char} (hBefore : before ≠ [])
    (hEven : Even (before.count '"')) (scope : Scope) (after : List Char) :
    joints (before ++ scope.punctuation :: after) =
      (joints before).map (·.extend (scope.punctuation :: after)) ++
        ⟨before, scope, after⟩ :: jointsFrom (scope.punctuation :: before.reverse) false after := by
  have hOutside : endsQuoted false before = false :=
    endsQuoted_eq_false_iff.2 (by simpa using hEven)
  rw [joints, jointsFrom_append, List.append_nil, hOutside,
    jointsFrom_of_sign (by simpa using hBefore) (Scope.ofPunctuation?_eq_some_iff.2 rfl),
    List.reverse_reverse, joints]

/-- The joints of a text are its signs outside of quotes, but for one in the first place. -/
theorem mem_joints_iff {cs : List Char} {j : Joint} :
    j ∈ joints cs ↔ j.whole = cs ∧ j.before ≠ [] ∧ Even (j.before.count '"') := by
  constructor
  · intro h
    exact ⟨whole_of_mem_joints h, (length_le_of_mem_jointsFrom h).2,
      even_count_of_mem_jointsFrom (by simp) h⟩
  · rintro ⟨rfl, hBefore, hEven⟩
    rw [Joint.whole, joints_append_sign hBefore hEven]
    exact List.mem_append_right _ List.mem_cons_self

/-- Behind the last joint no sign stands outside of quotes. -/
theorem not_even_count_of_last {cs : List Char} {last : Joint}
    (h : (joints cs).getLast? = some last) {before after : List Char} {c : Char}
    (hAfter : last.after = before ++ c :: after) (hSign : (Scope.ofPunctuation? c).isSome) :
    ¬ Even (before.count '"') := by
  intro hEven
  obtain ⟨scope, hScope⟩ := Option.isSome_iff_exists.1 hSign
  obtain rfl := Scope.ofPunctuation?_eq_some_iff.1 hScope
  obtain ⟨hWhole, hNonempty, hLast⟩ := mem_joints_iff.1 (List.mem_of_getLast? h)
  -- the sign would be a joint that lies behind the last one
  have hNoQuote : last.scope.punctuation ≠ '"' := by cases last.scope <;> decide
  have hMem : (⟨last.before ++ last.scope.punctuation :: before, scope, after⟩ : Joint) ∈
      joints cs := by
    refine mem_joints_iff.2 ⟨?_, by simp, ?_⟩
    · rw [← hWhole, Joint.whole, Joint.whole, hAfter]
      simp
    · rw [List.count_append, List.count_cons_of_ne hNoQuote]
      exact hLast.add hEven
  obtain ⟨init, hInit⟩ := List.getLast?_eq_some_iff.1 h
  have hSorted := pairwise_jointsFrom [] false cs
  rw [← joints, hInit, List.pairwise_append] at hSorted
  rw [hInit, List.mem_append, List.mem_singleton] at hMem
  rcases hMem with hMem | hEq
  · have hLess := hSorted.2.2 _ hMem last List.mem_cons_self
    simp only [List.length_append, List.length_cons] at hLess
    omega
  · have hLength := congrArg (fun j => j.before.length) hEq
    simp only [List.length_append, List.length_cons] at hLength
    omega

/-- Without a joint no sign stands outside of quotes but in the first place. -/
theorem eq_nil_of_joints_eq_nil {cs before after : List Char} {c : Char} (h : joints cs = [])
    (hEq : cs = before ++ c :: after) (hSign : (Scope.ofPunctuation? c).isSome)
    (hEven : Even (before.count '"')) : before = [] := by
  by_contra hBefore
  obtain ⟨scope, hScope⟩ := Option.isSome_iff_exists.1 hSign
  obtain rfl := Scope.ofPunctuation?_eq_some_iff.1 hScope
  rw [hEq, joints_append_sign hBefore hEven] at h
  simp at h

/-! ### Parts -/

/-- A longname as its parts make it up, without the variation. -/
def Parts.base (p : Parts) : String := p.memberof ++ p.punctuation ++ p.name

theorem base_shorten (longname : String) :
    (shorten longname).base = .ofList (splitVariation longname.toList).1 := by
  cases hLast : (joints (splitVariation longname.toList).1).getLast? with
  | none =>
    rw [shorten_of_none hLast]
    simp [Parts.base, Parts.punctuation]
  | some last =>
    have hWhole := whole_of_mem_joints (List.mem_of_getLast? hLast)
    rw [shorten_of_some hLast, ← hWhole, Joint.whole, String.ofList_append, ← List.singleton_append,
      String.ofList_append, ← String.append_assoc]
    rfl

theorem variation_shorten (longname : String) :
    (shorten longname).variation = .ofList (splitVariation longname.toList).2 := by
  cases hLast : (joints (splitVariation longname.toList).1).getLast? with
  | none => rw [shorten_of_none hLast]
  | some last => rw [shorten_of_some hLast]

/-! ### Main statement -/

/-- Whether some parts are those of a longname, cut at its last joint: they make up the longname
with nothing lost, the sign is the one of the scope and is there exactly if something encloses the
name, what encloses it ends outside of quotes, and no sign stands outside of quotes in the name,
except as the first character of a name that nothing encloses. -/
structure IsCut (longname : String) (p : Parts) : Prop where
  longname_eq : p.longname = longname
  written : longname = p.base ∧ p.variation = "" ∨
    longname = p.base ++ "(" ++ p.variation ++ ")" ∧ p.base ≠ "" ∧
      MatchesFromEnd p.variation.toList
  memberof_iff : p.punctuation = "" ↔ p.memberof = ""
  scope_iff : p.punctuation = "" ↔ p.scope = none
  sign : ∀ scope, p.scope = some scope → p.punctuation = String.singleton scope.punctuation
  even_quotes : Even (p.memberof.toList.count '"')
  name_signs : ∀ before c after, p.name.toList = before ++ c :: after →
    (Scope.ofPunctuation? c).isSome → Even (before.count '"') → before = [] ∧ p.memberof = ""

/-- Cutting a longname at its last joint loses nothing and leaves no joint in the name. -/
theorem isCut_shorten (longname : String) : IsCut longname (shorten longname) := by
  have hWritten : longname = (shorten longname).base ∧ (shorten longname).variation = "" ∨
      longname = (shorten longname).base ++ "(" ++ (shorten longname).variation ++ ")" ∧
        (shorten longname).base ≠ "" ∧
        MatchesFromEnd (shorten longname).variation.toList := by
    rw [base_shorten, variation_shorten, String.toList_ofList]
    rcases splitVariation_cases longname.toList with ⟨hSame, hNone⟩ | ⟨hCut, hNe, hMatches⟩
    · refine .inl ⟨?_, by rw [hNone]⟩
      rw [← hSame, String.ofList_toList]
    · refine .inr ⟨?_, by simpa using hNe, hMatches⟩
      apply String.toList_inj.1
      simpa using hCut
  cases hLast : (joints (splitVariation longname.toList).1).getLast? with
  | none =>
    have hNone := List.getLast?_eq_none_iff.1 hLast
    rw [shorten_of_none hLast] at hWritten ⊢
    constructor
    case written => exact hWritten
    case name_signs =>
      intro before c after hName hSign hEven
      rw [String.toList_ofList] at hName
      exact ⟨eq_nil_of_joints_eq_nil hNone hName hSign hEven, rfl⟩
    all_goals simp [Parts.punctuation]
  | some last =>
    obtain ⟨-, hBefore, hEven⟩ := mem_joints_iff.1 (List.mem_of_getLast? hLast)
    rw [shorten_of_some hLast] at hWritten ⊢
    constructor
    case written => exact hWritten
    case even_quotes => rwa [String.toList_ofList]
    case name_signs =>
      intro before c after hName hSign hPairs
      rw [String.toList_ofList] at hName
      exact absurd hPairs (not_even_count_of_last hLast hName hSign)
    case sign =>
      rintro scope hScope
      obtain rfl := Option.some.inj hScope
      rfl
    all_goals simp [Parts.punctuation, hBefore]

end Longname

end DocSite

/-! Longnames. A longname is a chain of names joined by the punctuation of their
scopes: a point for a static member, a hash for an instance member, a tilde for
an inner one. What stands between double quotes is one name whatever it holds,
and parentheses at the end hold a variation, which is no part of the last name.
A sign that opens the longname joins nothing. The module cuts a longname at its
joints, into the enclosing longname and the last name (`shorten`) or into all
enclosing longnames (`enclosing`). -/

namespace DocSite

/-- How a member belongs to what encloses it. -/
inductive Scope
  | static
  | onInstance
  | inner
deriving DecidableEq, Repr

namespace Scope

/-- The sign that joins a member to what encloses it. -/
def punctuation : Scope → Char
  | .static => '.'
  | .onInstance => '#'
  | .inner => '~'

def label : Scope → String
  | .static => "static"
  | .onInstance => "instance"
  | .inner => "inner"

def ofPunctuation? : Char → Option Scope
  | '.' => some .static
  | '#' => some .onInstance
  | '~' => some .inner
  | _ => none

def ofLabel? (label : String) : Option Scope :=
  [static, onInstance, inner].find? fun s => s.label == label

theorem ofPunctuation?_eq_some_iff {c : Char} {s : Scope} :
    ofPunctuation? c = some s ↔ c = s.punctuation := by
  constructor
  · intro h
    unfold ofPunctuation? at h
    split at h <;> simp_all [punctuation] <;> subst h <;> rfl
  · rintro rfl
    cases s <;> rfl

@[simp] theorem ofLabel?_label (s : Scope) : ofLabel? s.label = some s := by
  cases s <;> decide

end Scope

namespace Longname

/-- A place where a longname may be cut: what stands before the joint, how the
rest belongs to it, and what stands after. -/
structure Joint where
  before : List Char
  scope : Scope
  after : List Char
deriving DecidableEq, Repr

/-- The joint as it was written. -/
def Joint.whole (j : Joint) : List Char := j.before ++ j.scope.punctuation :: j.after

/-- Reads a text from its end, starting inside `depth` closing parentheses, up to
the one that opens the outermost. Both the text and the answer's first part are
in reverse order; the second part is what stands inside. -/
def openingParen (depth : Nat) (inside : List Char) : List Char → Option (List Char × List Char)
  | [] => none
  | c :: cs =>
    if c == ')' then openingParen (depth + 1) (c :: inside) cs
    else if c == '(' then
      match depth with
      | 0 => some (cs, inside)
      | depth + 1 => openingParen depth (c :: inside) cs
    else openingParen depth (c :: inside) cs

/-- A longname without the variation at its end, and the variation. Parentheses
that hold the whole longname are no variation. -/
def splitVariation (cs : List Char) : List Char × List Char :=
  match cs.reverse with
  | ')' :: rest => match openingParen 0 [] rest with
    | some (c :: before, inside) => ((c :: before).reverse, inside)
    | _ => (cs, [])
  | _ => (cs, [])

/-- The joints of a text, of which `before` is read already, in reverse order. -/
def jointsFrom (before : List Char) (inQuotes : Bool) : List Char → List Joint
  | [] => []
  | c :: cs =>
    if c == '"' then jointsFrom (c :: before) (!inQuotes) cs
    else
      let more := jointsFrom (c :: before) inQuotes cs
      if inQuotes || before.isEmpty then more
      else match Scope.ofPunctuation? c with
        | some scope => ⟨before.reverse, scope, cs⟩ :: more
        | none => more

/-- The joints of a longname without variation, outermost first. -/
def joints (base : List Char) : List Joint := jointsFrom [] false base

/-- A longname cut at its last joint. Without a joint there is no scope, and the
enclosing longname is empty. -/
structure Parts where
  longname : String
  memberof : String
  scope : Option Scope
  name : String
  variation : String
deriving DecidableEq, Repr

def Parts.punctuation (p : Parts) : String :=
  .ofList (p.scope.toList.map Scope.punctuation)

/-- Cuts a longname at its last joint. -/
def shorten (longname : String) : Parts :=
  let (base, variation) := splitVariation longname.toList
  match (joints base).getLast? with
  | none => ⟨longname, "", none, .ofList base, .ofList variation⟩
  | some joint =>
    ⟨longname, .ofList joint.before, some joint.scope, .ofList joint.after, .ofList variation⟩

/-- The longnames that enclose a longname, outermost first, and the longname itself. -/
def enclosing (longname : String) : List String :=
  let base := (splitVariation longname.toList).1
  (joints base).map (fun joint => .ofList joint.before) ++ [longname]

/-- A name without the double quotes around it, if there is anything between them. -/
def stripQuotes (name : String) : String :=
  match name.toList with
  | '"' :: rest => match rest.reverse with
    | '"' :: c :: inner => .ofList (c :: inner).reverse
    | _ => name
  | _ => name

/-- A text without the ASCII letters and the colon that it starts with. -/
def stripNamespace (cs : List Char) : List Char :=
  match cs.span Char.isAlpha with
  | (_ :: _, ':' :: rest) => rest
  | _ => cs

/-- The name that a longname is shown by: its last name, without a namespace and
without quotes. -/
def displayName (longname : String) : String :=
  stripQuotes (.ofList (stripNamespace (shorten longname).name.toList))

theorem openingParen_append {depth : Nat} {inside cs before content : List Char}
    (h : openingParen depth inside cs = some (before, content)) :
    content.reverse ++ '(' :: before = inside.reverse ++ cs := by
  induction cs generalizing depth inside with
  | nil => simp [openingParen] at h
  | cons c cs ih =>
    simp only [openingParen] at h
    split at h
    · simpa using ih h
    · split at h
      · next hc =>
        cases depth with
        | zero => simp_all
        | succ depth => simpa using ih h
      · simpa using ih h

/-- Whether the parentheses of a text match when they are read from its end: as many open as
close, and from no place to the end more open than close. -/
structure MatchesFromEnd (cs : List Char) : Prop where
  count_eq : cs.count '(' = cs.count ')'
  count_le : ∀ suffix, suffix <:+ cs → suffix.count '(' ≤ suffix.count ')'

/-- What the search for an opening parenthesis finds inside has parentheses that match, if those
read so far need `depth` more to open and none too many. -/
theorem matchesFromEnd_of_openingParen {depth : Nat} {inside cs before content : List Char}
    (h : openingParen depth inside cs = some (before, content))
    (hCount : inside.count '(' + depth = inside.count ')')
    (hSuffix : ∀ suffix, suffix <:+ inside → suffix.count '(' ≤ suffix.count ')') :
    MatchesFromEnd content := by
  induction cs generalizing depth inside with
  | nil => simp [openingParen] at h
  | cons c cs ih =>
    -- a longer text keeps the bound if it holds of the whole of it
    have hLonger : (c :: inside).count '(' ≤ (c :: inside).count ')' →
        ∀ suffix, suffix <:+ c :: inside → suffix.count '(' ≤ suffix.count ')' := by
      intro hWhole suffix hEnd
      rcases List.suffix_cons_iff.1 hEnd with rfl | hEnd
      · exact hWhole
      · exact hSuffix suffix hEnd
    by_cases hClose : c = ')'
    · subst hClose
      simp only [openingParen, beq_self_eq_true, if_true] at h
      have hNext : (')' :: inside).count '(' + (depth + 1) = (')' :: inside).count ')' := by
        rw [List.count_cons_of_ne (by decide), List.count_cons_self]
        omega
      exact ih h hNext (hLonger (by omega))
    · by_cases hOpen : c = '('
      · subst hOpen
        cases depth with
        | zero =>
          obtain ⟨-, rfl⟩ : cs = before ∧ inside = content := by simpa [openingParen] using h
          exact ⟨hCount, hSuffix⟩
        | succ depth =>
          have hNext : ('(' :: inside).count '(' + depth = ('(' :: inside).count ')' := by
            rw [List.count_cons_self, List.count_cons_of_ne (by decide)]
            omega
          exact ih (by simpa [openingParen] using h) hNext (hLonger (by omega))
      · have hNext : (c :: inside).count '(' + depth = (c :: inside).count ')' := by
          simpa [hClose, hOpen] using hCount
        exact ih (by simpa [openingParen, hClose, hOpen] using h) hNext (hLonger (by omega))

/-- A text without its variation is the whole text, or the variation stands behind a text that is
not empty, between parentheses that match. -/
theorem splitVariation_cases (cs : List Char) :
    cs = (splitVariation cs).1 ∧ (splitVariation cs).2 = [] ∨
      cs = (splitVariation cs).1 ++ '(' :: (splitVariation cs).2 ++ [')'] ∧
        (splitVariation cs).1 ≠ [] ∧ MatchesFromEnd (splitVariation cs).2 := by
  unfold splitVariation
  split
  · next rest hReverse =>
    split
    · next c before inside hOpening =>
      right
      have hRest := openingParen_append hOpening
      have hcs : cs = (')' :: rest).reverse := by rw [← hReverse, List.reverse_reverse]
      refine ⟨?_, by simp, matchesFromEnd_of_openingParen hOpening (by simp) (by simp)⟩
      rw [List.reverse_nil, List.nil_append] at hRest
      rw [hcs, ← hRest]
      simp
    · exact .inl ⟨rfl, rfl⟩
  · exact .inl ⟨rfl, rfl⟩

theorem shorten_of_none {longname : String}
    (h : (joints (splitVariation longname.toList).1).getLast? = none) :
    shorten longname = ⟨longname, "", none, .ofList (splitVariation longname.toList).1,
      .ofList (splitVariation longname.toList).2⟩ := by
  simp only [shorten, h]

theorem shorten_of_some {longname : String} {last : Joint}
    (h : (joints (splitVariation longname.toList).1).getLast? = some last) :
    shorten longname = ⟨longname, .ofList last.before, some last.scope, .ofList last.after,
      .ofList (splitVariation longname.toList).2⟩ := by
  simp only [shorten, h]

theorem whole_of_mem_jointsFrom {before : List Char} {inQuotes : Bool} {cs : List Char}
    {j : Joint} (h : j ∈ jointsFrom before inQuotes cs) : j.whole = before.reverse ++ cs := by
  induction cs generalizing before inQuotes with
  | nil => simp [jointsFrom] at h
  | cons c cs ih =>
    simp only [jointsFrom] at h
    split at h
    · simpa using ih h
    · split at h
      · simpa using ih h
      · split at h
        · next scope hs =>
          rcases List.mem_cons.1 h with rfl | h
          · simp [Joint.whole, (Scope.ofPunctuation?_eq_some_iff.1 hs).symm]
          · simpa using ih h
        · simpa using ih h

/-- A joint cuts the text that it was found in and loses nothing. -/
theorem whole_of_mem_joints {base : List Char} {j : Joint} (h : j ∈ joints base) :
    j.whole = base := by
  simpa using whole_of_mem_jointsFrom h

end Longname

end DocSite

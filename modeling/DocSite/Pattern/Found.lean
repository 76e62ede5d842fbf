import DocSite.Pattern.Parser

/-! Where patterns are found in a text: the first place, all places, and the text with each
place replaced. -/

namespace DocSite

namespace Pattern

def nowhere : Pattern := .one ⟨false, .exact, []⟩

/-- The pattern that a text is, or one that is found nowhere if it is none. -/
def ofText (s : String) : Pattern :=
  match parse s.toList with
  | .ok p => p
  | .error _ => nowhere

structure Found where
  text : Array Char
  start : Nat
  place : Place

namespace Found

def stop (f : Found) : Nat := f.place.position

def span? (f : Found) (number : Nat) : Option (Nat × Nat) := f.place.group? number

/-- The characters of a group of the pattern, if it takes part. -/
def group? (f : Found) (number : Nat) : Option (List Char) :=
  (f.span? number).map fun (start, stop) => (f.text.extract start stop).toList

/-- The characters of a group of the pattern; none if it takes no part. -/
def group (f : Found) (number : Nat) : List Char := (f.group? number).getD []

/-- All characters of the place. -/
def whole (f : Found) : List Char := (f.text.extract f.start f.stop).toList

def before (f : Found) : List Char := (f.text.extract 0 f.start).toList

def after (f : Found) : List Char := (f.text.extract f.stop f.text.size).toList

end Found

/-- The place that begins at a position, if there is one. -/
def foundAt? (p : Pattern) (text : Array Char) (start : Nat) : Option Found :=
  (p.matchAt text start).map (⟨text, start, ·⟩)

def find? (p : Pattern) (text : Array Char) (start : Nat) : Option Found :=
  (p.search text start).map fun (start, place) => ⟨text, start, place⟩

def begins (p : Pattern) (cs : List Char) : Bool := (p.matchAt cs.toArray 0).isSome

def foundIn (p : Pattern) (cs : List Char) : Bool := (p.search cs.toArray 0).isSome

/-- The places from a position on, none of which begins before the one before it ends. -/
def findFrom (p : Pattern) (text : Array Char) : Nat → Nat → List Found
  | 0, _ => []
  | fuel + 1, start =>
    match p.find? text start with
    | none => []
    | some f => f :: findFrom p text fuel (max f.stop (f.start + 1))

/-- All places, none of which begins before the one before it ends. -/
def findAll (p : Pattern) (text : Array Char) : List Found := p.findFrom text (text.size + 1) 0

/-- A text, from a position on, with places replaced. -/
def replaceFrom (text : Array Char) (replacement : Found → List Char) : Nat → List Found → List Char
  | start, [] => (text.extract start text.size).toList
  | start, f :: rest =>
    (text.extract start f.start).toList ++ replacement f ++
      replaceFrom text replacement f.stop rest

def replaceAll (p : Pattern) (replacement : Found → List Char) (cs : List Char) : List Char :=
  let text := cs.toArray
  replaceFrom text replacement 0 (p.findAll text)

@[simp] theorem matchAt_nowhere (text : Array Char) (start : Nat) :
    nowhere.matchAt text start = none := by
  simp only [matchAt, nowhere, run]
  split <;> simp [CharSet.holds]

end Pattern

end DocSite

import DocSite.Pattern.CharSet

/-! Patterns that tell which texts belong to a set. A pattern is a tree, and it is
run by going back: every alternative is tried with what comes after it, the preferred
one first, and the first that succeeds counts. A place of a run is a position in the
text and where groups began and ended so far. -/

namespace DocSite

/-- A place in a text that a pattern may ask for. -/
inductive Edge
  | start
  | finish
  | lastLine
  | lineStart
  | lineEnd
  | word (ascii present : Bool)
deriving DecidableEq, Repr

/-- How many rounds a repetition prefers, and whether it ever takes fewer than it could. -/
inductive Appetite
  | greedy
  | modest
  | possessive
deriving DecidableEq, Repr

/-- A pattern. What stands before a place is looked at from as many characters back as it
takes, so its body has to take a fixed number. -/
inductive Pattern
  | empty
  | one (set : CharSet)
  | edge (edge : Edge)
  | seq (first second : Pattern)
  | either (first second : Pattern)
  | group (body : Pattern)
  | capture (number : Nat) (body : Pattern)
  | atomic (body : Pattern)
  | ahead (present : Bool) (body : Pattern)
  | behind (present : Bool) (least : Nat) (most : Option Nat) (body : Pattern)
  | repeated (body : Pattern) (least : Nat) (most : Option Nat) (appetite : Appetite)
  | same (number : Nat) (casing : Casing)
  | given (number : Nat) (yes no : Pattern)
deriving DecidableEq, Repr

namespace Pattern

/-- A position of a run, and where groups began and ended, the latest first. -/
structure Place where
  position : Nat
  opened : List (Nat × Nat)
  closed : List (Nat × Nat)
deriving DecidableEq, Repr

namespace Place

/-- A place before any group. -/
def outset (position : Nat) : Place := ⟨position, [], []⟩

def forward (p : Place) : Place := { p with position := p.position + 1 }

def openGroup (number : Nat) (p : Place) : Place :=
  { p with opened := (number, p.position) :: p.opened }

def closeGroup (number : Nat) (p : Place) : Place :=
  { p with closed := (number, p.position) :: p.closed }

/-- Where a group began and ended, if it did. A group that has begun anew since it ended
does not count. -/
def group? (number : Nat) (p : Place) : Option (Nat × Nat) :=
  match p.opened.lookup number, p.closed.lookup number with
  | some start, some stop => if start ≤ stop then some (start, stop) else none
  | _, _ => none

@[simp] theorem group?_outset (number position : Nat) :
    (outset position).group? number = none := rfl

end Place

/-- What comes after a part of a pattern. -/
abbrev Rest := Place → Option Place

def atWordEdge (ascii : Bool) (text : Array Char) (position : Nat) : Bool :=
  let isWord (c : Option Char) : Bool := c.any (CharKind.word.holds ascii)
  isWord (if position == 0 then none else text[position - 1]?) != isWord text[position]?

/-- Whether an edge is at a position. An empty text has no edges of words, nor places
between them. -/
def isEdge (text : Array Char) (position : Nat) : Edge → Bool
  | .start => position == 0
  | .finish => position == text.size
  | .lastLine =>
    position == text.size || (position + 1 == text.size && text[position]? == some '\n')
  | .lineStart => position == 0 || text[position - 1]? == some '\n'
  | .lineEnd => position == text.size || text[position]? == some '\n'
  | .word ascii present => 0 < text.size && atWordEdge ascii text position == present

/-- Whether a text has the same characters from two positions on, for a number of them. -/
def sameFrom (casing : Casing) (text : Array Char) : Nat → Nat → Nat → Bool
  | _, _, 0 => true
  | first, second, length + 1 =>
    match text[first]?, text[second]? with
    | some c, some d =>
      casing.fold c == casing.fold d && sameFrom casing text (first + 1) (second + 1) length
    | _, _ => false

/-- The rounds of a repetition whose single round is `step`. Rounds that may be left out
are made only away from the place where the last such round began. -/
def rounds (step : Rest → Rest) (modest : Bool) (k : Rest) :
    Nat → Nat → Option Nat → Option Nat → Rest
  | 0, _, _, _, _ => none
  | fuel + 1, least + 1, most, last, p =>
    step (rounds step modest k fuel least (most.map (· - 1)) last) p
  | fuel + 1, 0, most, last, p =>
    if most == some 0 || last == some p.position then k p
    else
      let further (_ : Unit) : Option Place :=
        step (rounds step modest k fuel 0 (most.map (· - 1)) (some p.position)) p
      if modest then
        match k p with
        | some q => some q
        | none => further ()
      else
        match further () with
        | some q => some q
        | none => k p

/-- Takes the first success of a part alone. -/
def once (step : Rest → Rest) : Rest → Rest := fun k p =>
  match step some p with
  | some q => k q
  | none => none

/-- Runs a pattern from a place, with what comes after it. -/
def run (text : Array Char) : Pattern → Rest → Rest
  | .empty, k, p => k p
  | .one set, k, p =>
    match text[p.position]? with
    | some c => if set.holds c then k p.forward else none
    | none => none
  | .edge e, k, p => if isEdge text p.position e then k p else none
  | .seq first second, k, p => run text first (run text second k) p
  | .either first second, k, p =>
    match run text first k p with
    | some q => some q
    | none => run text second k p
  | .group body, k, p => run text body k p
  | .capture number body, k, p =>
    run text body (fun q => k (q.closeGroup number)) (p.openGroup number)
  | .atomic body, k, p => once (run text body) k p
  | .ahead present body, k, p =>
    match run text body some p with
    | some q => if present then k { q with position := p.position } else none
    | none => if present then none else k p
  | .behind present least _ body, k, p =>
    let found :=
      if least ≤ p.position then run text body some { p with position := p.position - least }
      else none
    match found with
    | some q => if present then k { q with position := p.position } else none
    | none => if present then none else k p
  | .repeated body least most appetite, k, p =>
    let fuel := least + (text.size - p.position) + 2
    match appetite with
    | .greedy => rounds (run text body) false k fuel least most none p
    | .modest => rounds (run text body) true k fuel least most none p
    | .possessive =>
      once (fun k p => rounds (once (run text body)) false k fuel least most none p) k p
  | .same number casing, k, p =>
    match p.group? number with
    | some (start, stop) =>
      let length := stop - start
      if sameFrom casing text start p.position length then
        k { p with position := p.position + length }
      else none
    | none => none
  | .given number yes no, k, p =>
    if (p.group? number).isSome then run text yes k p else run text no k p

/-- Where a pattern ends that begins at a position. -/
def matchAt (p : Pattern) (text : Array Char) (start : Nat) : Option Place :=
  p.run text some (.outset start)

/-- The first of a number of positions where a pattern begins, and where it ends. -/
def searchFrom (p : Pattern) (text : Array Char) : Nat → Nat → Option (Nat × Place)
  | 0, _ => none
  | count + 1, start =>
    match p.matchAt text start with
    | some place => some (start, place)
    | none => searchFrom p text count (start + 1)

/-- The first place of a text, from a position on, where a pattern occurs. -/
def search (p : Pattern) (text : Array Char) (start : Nat) : Option (Nat × Place) :=
  p.searchFrom text (text.size + 1 - start) start

def occursIn (p : Pattern) (s : String) : Bool := (p.search s.toList.toArray 0).isSome

@[simp] theorem run_empty (text : Array Char) (k : Rest) (p : Place) :
    run text .empty k p = k p := rfl

@[simp] theorem run_group (text : Array Char) (body : Pattern) (k : Rest) (p : Place) :
    run text (.group body) k p = run text body k p := rfl

@[simp] theorem run_seq (text : Array Char) (first second : Pattern) (k : Rest) (p : Place) :
    run text (.seq first second) k p = run text first (run text second k) p := rfl

end Pattern

end DocSite

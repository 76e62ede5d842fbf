import DocSite.Markdown.Page

/-! Emphasis. A run of asterisks or underscores before and after a text emphasizes it: one sign
does so once, two do so strongly, and three do both. The text is looked through again, but
only for the kinds of emphasis that come after its own in the order of the kinds. -/

namespace DocSite.Markdown

/-- The elements of a kind of emphasis: one, or two of which the inner one comes first or
last in the outer one. -/
inductive Nesting
  | single (tag : String)
  | innerFirst (outer inner : String)
  | innerLast (outer inner : String)
deriving DecidableEq, Repr

/-- A kind of emphasis: its pattern, in which 2 and 3 are the texts, and its elements. -/
structure Stress where
  pattern : Pattern
  nesting : Nesting

def asteriskStresses : List Stress :=
  [⟨.ofText "(?s)(\\*)\\1\x7b2\x7d(.+?)\\1(.*?)\\1\x7b2\x7d", .innerFirst "strong" "em"⟩,
   ⟨.ofText "(?s)(\\*)\\1\x7b2\x7d(.+?)\\1\x7b2\x7d(.*?)\\1", .innerFirst "em" "strong"⟩,
   ⟨.ofText "(?s)(\\*)\\1(?!\\1)([^*]+?)\\1(?!\\1)(.+?)\\1\x7b3\x7d", .innerLast "strong" "em"⟩,
   ⟨.ofText "(?s)(\\*\x7b2\x7d)(.+?)\\1", .single "strong"⟩,
   ⟨.ofText "(?s)(\\*)([^\\*]+)\\1", .single "em"⟩]

/-- The kinds of emphasis with underscores, which are not found inside words. -/
def underscoreStresses : List Stress :=
  [⟨.ofText "(?s)(_)\\1\x7b2\x7d(.+?)\\1(.*?)\\1\x7b2\x7d", .innerFirst "strong" "em"⟩,
   ⟨.ofText "(?s)(_)\\1\x7b2\x7d(.+?)\\1\x7b2\x7d(.*?)\\1", .innerFirst "em" "strong"⟩,
   ⟨.ofText "(?s)(?<!\\w)(\\_)\\1(?!\\1)(.+?)(?<!\\w)\\1(?!\\1)(.+?)\\1\x7b3\x7d(?!\\w)",
    .innerLast "strong" "em"⟩,
   ⟨.ofText "(?s)(?<!\\w)(_\x7b2\x7d)(?!_)(.+?)(?<!_)\\1(?!\\w)", .single "strong"⟩,
   ⟨.ofText "(?s)(?<!\\w)(_)(?!_)(.+?)(?<!_)\\1(?!\\w)", .single "em"⟩]

/-- A text that is put into an element: the position that is looked at, the position up to
which the text is in it, and the child after which the rest of the text goes. -/
structure Filling where
  position : Nat
  done : Nat
  last? : Option Nat
deriving DecidableEq, Repr

namespace Filling

/-- Puts text into an element after a child of it, or before all children. -/
def putText (parent : Nat) (f : Filling) (cs : List Char) : PageM Unit :=
  unless cs.isEmpty do
    match f.last? with
    | some i => PageM.change i fun e => { e with tail := .plain cs }
    | none => PageM.change parent fun e => { e with text := .plain cs }

/-- A way to make an element of what was found for a kind of emphasis, with the kinds that
are looked for in it. -/
abbrev Build := Stress → List Stress → Pattern.Found → PageM Nat

/-- Looks for each kind of emphasis, at the position after what was found before. -/
def findStresses (build : Build) (text : Array Char) (parent : Nat) (f : Filling) :
    List Stress → PageM Filling
  | [] => return f
  | stress :: later => do
    match stress.pattern.foundAt? text f.position with
    | none => f.findStresses build text parent later
    | some found =>
      f.putText parent (text.extract f.done found.start).toList
      let i ← build stress later found
      PageM.append parent i
      findStresses build text parent ⟨found.stop, found.stop, some i⟩ later

/-- Puts the rest of a text into an element. -/
def fill (build : Build) (sign : Char) (stresses : List Stress) (text : Array Char)
    (parent : Nat) : Nat → Filling → PageM Unit
  | 0, _ => return
  | fuel + 1, f => do
    match text[f.position]? with
    | none => f.putText parent (text.extract f.done text.size).toList
    | some c =>
      let next ← if c == sign then f.findStresses build text parent stresses else pure f
      let next :=
        if next.position == f.position then { next with position := f.position + 1 } else next
      fill build sign stresses text parent fuel next

end Filling

/-- Makes an element of what was found for a kind of emphasis. -/
def emphasize (sign : Char) : Nat → Filling.Build
  | 0, _, _, _ => PageM.add (.ofTag "em")
  | depth + 1, stress, later, found => do
    let put (parent : Nat) (last? : Option Nat) (cs : List Char) : PageM Unit :=
      Filling.fill (emphasize sign depth) sign later cs.toArray parent (cs.length + 1)
        ⟨0, 0, last?⟩
    match stress.nesting with
    | .single tag =>
      let i ← PageM.add (.ofTag tag)
      put i none (found.group 2)
      return i
    | .innerFirst outer inner =>
      let i ← PageM.add (.ofTag outer)
      let j ← PageM.add (.ofTag inner)
      put j none (found.group 2)
      PageM.append i j
      put i (some j) (found.group 3)
      return i
    | .innerLast outer inner =>
      let i ← PageM.add (.ofTag outer)
      let j ← PageM.add (.ofTag inner)
      put i none (found.group 2)
      PageM.append i j
      put j none (found.group 3)
      return i

/-- The first of some kinds of emphasis that is found at a position, with its text's
element. -/
def readEmphasis (sign : Char) (text : Array Char) (start : Nat) :
    List Stress → PageM (Option (Nat × Nat))
  | [] => return none
  | stress :: later => do
    match stress.pattern.foundAt? text start with
    | none => readEmphasis sign text start later
    | some found =>
      return some (← emphasize sign (later.length + 1) stress later found, found.stop)

end DocSite.Markdown

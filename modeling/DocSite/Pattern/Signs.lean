import DocSite.Pattern
import DocSite.Pattern.Fault

/-! The state of a reader of patterns. The text is cut into signs, a backslash and the
character after it being one sign, and every sign keeps its position. Beside the signs
that are left, the reader knows the groups it has met. -/

namespace DocSite.Pattern

/-- A sign of a pattern. A backslash at the very end is not followed by anything. -/
inductive Sign
  | plain (c : Char)
  | escaped (c : Char)
  | dangling
deriving DecidableEq, Repr

namespace Sign

def chars : Sign → List Char
  | .plain c => [c]
  | .escaped c => ['\\', c]
  | .dangling => ['\\']

def text (s : Sign) : String := .ofList s.chars

/-- Cuts a text into signs; the first has the given position. -/
def cut (position : Nat) : List Char → List (Nat × Sign)
  | [] => []
  | ['\\'] => [(position, .dangling)]
  | '\\' :: c :: cs => (position, .escaped c) :: cut (position + 2) cs
  | c :: cs => (position, .plain c) :: cut (position + 1) cs

end Sign

/-- A switch that changes how a pattern is read. -/
inductive Flag
  | caseless
  | manyLines
  | anyCharacter
  | spaced
  | ascii
  | wide
  | template
deriving DecidableEq, Repr

/-- How few and how many characters a pattern can take. -/
structure Width where
  least : Nat
  most : Option Nat
deriving DecidableEq, Repr

/-- What a reader of a pattern knows: the signs still to be read, each with its position,
the position after the last, the flags of the whole pattern, the width of each group, none
while it is open, the names of groups, the groups that conditions ask for with the positions
of the first question, and the number of groups before the outermost look-behind that
is around. -/
structure Reading where
  signs : List (Nat × Sign)
  stop : Nat
  flags : List Flag
  widths : List (Option Width)
  names : List (String × Nat)
  asked : List (Nat × Nat)
  behindFrom : Option Nat

/-- A reader of patterns. -/
abbrev Reader (α : Type) := StateT Reading (Except Failure) α

namespace Reader

def fail {α : Type} (fault : Fault) (position : Nat) : Reader α :=
  throw (.located fault position)

def peek : Reader (Option Sign) := return (← get).signs.head?.map Prod.snd

def position : Reader Nat := do
  let r ← get
  match r.signs with
  | [] => return r.stop
  | (here, _) :: _ => return here

/-- A backslash at the very end is a fault as soon as it comes next. -/
def checkEnd : Reader Unit := do
  match (← get).signs with
  | (here, .dangling) :: _ => fail .endInEscape here
  | _ => return

/-- Goes past the next sign. -/
def advance : Reader Unit := do
  modify fun r => { r with signs := r.signs.tail }
  checkEnd

/-- The next sign, which is gone past. -/
def next : Reader (Option Sign) := do
  let sign ← peek
  advance
  return sign

/-- Whether the next sign is a certain character. -/
def startsWith (c : Char) : Reader Bool := return (← peek) == some (.plain c)

/-- Goes past a certain character, if it is next, and tells whether it was. -/
def skip (c : Char) : Reader Bool := do
  if ← startsWith c then
    advance
    return true
  else return false

def left : Reader Nat := return (← get).signs.length

/-- The next characters of a kind, no more than `limit`. -/
def takeChars (holds : Char → Bool) : Nat → Reader (List Char)
  | 0 => return []
  | limit + 1 => do
    match ← peek with
    | some (.plain c) =>
      if holds c then
        advance
        return c :: (← takeChars holds limit)
      else return []
    | _ => return []

/-- The characters up to a closing sign, which is gone past; `what` they are is told when
they are missing. -/
def takeUntil (closing : Char) (what : String) : Nat → List Char → Reader (List Char)
  | 0, _ => return []
  | fuel + 1, read => do
    let sign ← next
    match sign with
    | none =>
      if read.isEmpty then fail (.missing what) (← position)
      fail (.missing (.ofList [closing] ++ ", unterminated name")) ((← position) - read.length)
    | some sign =>
      if sign == .plain closing then
        if read.isEmpty then fail (.missing what) ((← position) - 1) else return read
      else takeUntil closing what fuel (read ++ sign.chars)

/-- The name up to a closing sign. -/
def name (closing : Char) (what : String) : Reader (List Char) := do
  takeUntil closing what ((← left) + 1) []

/-- How many groups there are, the whole counting as one. -/
def groupCount : Reader Nat := return (← get).widths.length + 1

def widthOf? (number : Nat) : Reader (Option Width) := do
  if number == 0 then return none
  return ((← get).widths[number - 1]?).join

def openGroup : Reader Nat := do
  let number ← groupCount
  modify fun r => { r with widths := r.widths ++ [none] }
  return number

def closeGroup (number : Nat) (width : Width) : Reader Unit :=
  modify fun r => { r with widths := r.widths.set (number - 1) (some width) }

/-- Inside a look-behind, refuses a group that is open or that began in there. -/
def checkBehind (number : Nat) : Reader Unit := do
  let some first := (← get).behindFrom | return
  if (← widthOf? number).isNone then fail .openGroup (← position)
  if first ≤ number then fail .groupInSameBehind (← position)

end Reader

end DocSite.Pattern

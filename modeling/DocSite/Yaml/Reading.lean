import DocSite.Yaml.Node

/-! The state of a reader of YAML. It goes through the characters of a text, counting lines
and columns, and cuts them into tokens. Whether a scalar is a key is known only when its
colon comes, so the places where a key may have begun are kept for each depth of
brackets. Blocks are told by columns. -/

namespace DocSite.Yaml

/-- A part of a text that means something by itself. -/
inductive TokenKind
  | streamEnd
  | versionDirective (major : Nat)
  | tagDirective (handle lead : String)
  | otherDirective
  | documentStart
  | documentEnd
  | blockSequenceStart
  | blockMappingStart
  | blockEnd
  | flowSequenceStart
  | flowSequenceEnd
  | flowMappingStart
  | flowMappingEnd
  | flowEntry
  | blockEntry
  | key
  | value
  | alias (name : String)
  | anchor (name : String)
  | tag (handle : Option String) (suffix : String)
  | scalar (text : String) (plain : Bool)
deriving DecidableEq, Repr

def TokenKind.label : TokenKind → String
  | .streamEnd => "<stream end>"
  | .versionDirective _ | .tagDirective .. | .otherDirective => "<directive>"
  | .documentStart => "<document start>"
  | .documentEnd => "<document end>"
  | .blockSequenceStart => "<block sequence start>"
  | .blockMappingStart => "<block mapping start>"
  | .blockEnd => "<block end>"
  | .flowSequenceStart => "["
  | .flowSequenceEnd => "]"
  | .flowMappingStart => "\x7b"
  | .flowMappingEnd => "\x7d"
  | .flowEntry => ","
  | .blockEntry => "-"
  | .key => "?"
  | .value => ":"
  | .alias _ => "<alias>"
  | .anchor _ => "<anchor>"
  | .tag .. => "<tag>"
  | .scalar .. => "<scalar>"

structure Token where
  kind : TokenKind
  start : Mark
  stop : Mark
deriving DecidableEq, Repr

/-- A place where a key may have begun: the number of the token that it would come before,
and whether a key has to be there. -/
structure PossibleKey where
  token : Nat
  required : Bool
  place : Mark
deriving DecidableEq, Repr

/-- A node that has a name, or the tag of one that is still open and the place where it began. -/
inductive Anchored
  | done (node : Node)
  | opened (tag : Tag) (place : Mark)

def Anchored.place : Anchored → Mark
  | .done node => node.place
  | .opened _ place => place

/-- What a reader knows. The depth of brackets falls below zero when one is closed that
was not opened. -/
structure Reading where
  text : Array Char
  here : Mark
  ended : Bool
  depth : Int
  tokens : List Token
  taken : Nat
  indent : Int
  indents : List Int
  keyAllowed : Bool
  keys : List (Int × PossibleKey)
  handles : List (String × String)
  anchors : List (String × Anchored)

abbrev Reader (α : Type) := StateT Reading (Except Fault) α

/-- What stands after the last character of a text. -/
def endSign : Char := '\x00'

/-- Whether a line or the text ends with a character. -/
def isLineEnd (c : Char) : Bool := c == endSign || isBreak c

/-- Whether a character ends a word: a space, or the end of a line. -/
def isWordEnd (c : Char) : Bool := c == ' ' || isLineEnd c

/-- Whether a character stands apart from what comes before it: a space, a tab, or the end
of a line. -/
def isGap (c : Char) : Bool := c == '\t' || isWordEnd c

namespace Reading

def start (text : List Char) : Reading :=
  { text := text.toArray, here := ⟨0, 0, 0⟩, ended := false, depth := 0, tokens := [], taken := 0,
    indent := -1, indents := [], keyAllowed := true, keys := [], handles := [], anchors := [] }

/-- The character some places further on. -/
def charAt (r : Reading) (offset : Nat) : Char := r.text.getD (r.here.position + offset) endSign

def nextPlace (r : Reading) : Mark :=
  let c := r.charAt 0
  let position := r.here.position + 1
  if c == '\r' && r.charAt 1 == '\n' then ⟨position, r.here.line, r.here.column + 1⟩
  else if isBreak c then ⟨position, r.here.line + 1, 0⟩
  else if c == '\ufeff' then ⟨position, r.here.line, r.here.column⟩
  else ⟨position, r.here.line, r.here.column + 1⟩

def left (r : Reading) : Nat := r.text.size - r.here.position

/-- Whether three equal signs and a gap stand here. -/
def atSigns (r : Reading) (c : Char) : Bool :=
  r.charAt 0 == c && r.charAt 1 == c && r.charAt 2 == c && isGap (r.charAt 3)

/-- Whether the signs stand here that begin or end a document. -/
def atSeparator (r : Reading) : Bool := r.atSigns '-' || r.atSigns '.'

end Reading

namespace Reader

def refuse {α : Type} (stage : Stage) (doing : Option String) (since : Option Mark)
    (problem : String) (place : Mark) : Reader α :=
  throw (.malformed ⟨stage, doing, since, problem, place⟩)

def here : Reader Mark := return (← get).here

/-- Refuses the text for what is wrong at the next character, while something is read
that began at a place. -/
def refuseHere {α : Type} (doing : String) (since : Mark) (problem : String) : Reader α := do
  refuse .scanning (some doing) (some since) problem (← here)

def peekAt (offset : Nat) : Reader Char := return (← get).charAt offset

def peek : Reader Char := peekAt 0

def step : Reader Unit := modify fun r => { r with here := r.nextPlace }

/-- Goes past a number of characters. -/
def steps : Nat → Reader Unit
  | 0 => return
  | count + 1 => do
    step
    steps count

def refuseSign {α : Type} (doing : String) (since : Mark) (expected : String) (offset : Nat) :
    Reader α := do
  let c ← peekAt offset
  refuseHere doing since (expected ++ ", but found " ++ Text.quoted (.ofList [c]))

/-- The next characters of a kind, no more than `limit`. -/
def takeUpTo (holds : Char → Bool) : Nat → Reader (List Char)
  | 0 => return []
  | limit + 1 => do
    let c ← peek
    if !holds c then return []
    step
    return c :: (← takeUpTo holds limit)

def takeWhile (holds : Char → Bool) : Reader (List Char) := do
  takeUpTo holds (← get).left

/-- Goes past characters of a kind. -/
def skipWhile (holds : Char → Bool) : Reader Unit := do
  let _ ← takeWhile holds

def skipSpaces : Reader Unit := skipWhile (· == ' ')

def skipComment : Reader Unit := do
  if (← peek) == '#' then skipWhile fun c => !isLineEnd c

/-- Goes past a line break, if one is next, and gives what it counts as. -/
def lineBreak : Reader (Option Char) := do
  let c ← peek
  if !isBreak c then return none
  if c == '\r' && (← peekAt 1) == '\n' then step
  step
  return some (if c == '\u2028' || c == '\u2029' then c else '\n')

/-- Adds a token after those that wait. -/
def put (kind : TokenKind) (start stop : Mark) : Reader Unit :=
  modify fun r => { r with tokens := r.tokens ++ [⟨kind, start, stop⟩] }

/-- Adds a token that takes no characters. -/
def putEmpty (kind : TokenKind) : Reader Unit := do
  let m ← here
  put kind m m

/-- Adds a token of a number of characters, and goes past them. -/
def putSigns (kind : TokenKind) (length : Nat) : Reader Unit := do
  let start ← here
  steps length
  put kind start (← here)

end Reader

end DocSite.Yaml

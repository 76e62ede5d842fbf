import DocSite.Pattern.Signs

/-! What a backslash and the character after it stand for in a pattern: a character by a
letter or by its code, a kind of characters, an edge, or the text of a group. -/

namespace DocSite.Pattern

def numberOf (base : Nat) (digits : List Char) : Nat :=
  digits.foldl (fun n c => base * n + (Text.digitValue? 16 c).getD 0) 0

def isHexDigit (c : Char) : Bool := (Text.digitValue? 16 c).isSome

def isOctalDigit (c : Char) : Bool := (Text.digitValue? 8 c).isSome

/-- The kind of characters that a letter stands for, and whether all others are meant. -/
def kindOf? : Char → Option (CharKind × Bool)
  | 'd' => some (.digit, false)
  | 'D' => some (.digit, true)
  | 's' => some (.blank, false)
  | 'S' => some (.blank, true)
  | 'w' => some (.word, false)
  | 'W' => some (.word, true)
  | _ => none

/-- The code of the control character that a letter stands for. -/
def controlOf? : Char → Option Nat
  | 'a' => some 0x07
  | 'f' => some 0x0C
  | 'n' => some 0x0A
  | 'r' => some 0x0D
  | 't' => some 0x09
  | 'v' => some 0x0B
  | '\\' => some 0x5C
  | _ => none

def edgeOf? (ascii : Bool) : Char → Option Edge
  | 'A' => some .start
  | 'Z' => some .finish
  | 'b' => some (.word ascii true)
  | 'B' => some (.word ascii false)
  | _ => none

/-- How many hexadecimal digits follow a letter. -/
def codeLength? : Char → Option Nat
  | 'x' => some 2
  | 'u' => some 4
  | 'U' => some 8
  | _ => none

namespace Reader

/-- The code of a character that is written by its name. No names are known. -/
def namedCode : Reader Nat := do
  if !(← skip '\x7b') then fail (.missing "\x7b") (← position)
  let name ← name '\x7d' "character name"
  fail (.undefinedCharacter (.ofList name)) ((← position) - (name.length + 4))

/-- The code of a character that is written by a letter, by digits for its code, or by
itself, after a backslash at `start`. It is no octal digit. -/
def escapedCode (start : Nat) (c : Char) : Reader Nat := do
  if let some code := controlOf? c then return code
  if let some length := codeLength? c then
    let digits ← takeChars isHexDigit length
    let shown := String.ofList ('\\' :: c :: digits)
    if digits.length < length then fail (.incompleteEscape shown) start
    let code := numberOf 16 digits
    if 0x7FFFFFFF < code then throw .tooLarge
    if 0x10FFFF < code then fail (.badEscape shown) start
    return code
  if c == 'N' then return ← namedCode
  if c.isAlphanum then fail (.badEscape (.ofList ['\\', c])) start
  return c.toNat

def octalCode (start : Nat) (digits : List Char) : Reader Nat := do
  let code := numberOf 8 digits
  if 0xFF < code then fail (.largeOctal (.ofList ('\\' :: digits))) start
  return code

def escapedItem (ascii : Bool) (start : Nat) (c : Char) : Reader CharItem := do
  if let some (kind, negated) := kindOf? c then return .kind kind ascii negated
  if c == 'b' then return .range 0x08 0x08
  if isOctalDigit c then
    let digits ← takeChars isOctalDigit 2
    let code ← octalCode start (c :: digits)
    return .range code code
  let code ← escapedCode start c
  return .range code code

/-- The code or the group that a digit other than zero, at `start + 1`, begins. Three octal
digits are a code. -/
def codeOrGroup (start : Nat) (first : Char) : Reader (Nat ⊕ Nat) := do
  let second ← takeChars Char.isDigit 1
  let digits := first :: second
  if digits.length == 2 && digits.all isOctalDigit then
    let third ← takeChars isOctalDigit 1
    if !third.isEmpty then return .inl (← octalCode start (digits ++ third))
  let number := numberOf 10 digits
  if number < (← groupCount) then
    if (← widthOf? number).isNone then fail .openGroup start
    checkBehind number
    return .inr number
  fail (.missingGroup number) (start + 1)

def escaped (casing : Casing) (ascii : Bool) (start : Nat) (c : Char) : Reader Pattern := do
  if let some place := edgeOf? ascii c then return .edge place
  if let some (kind, negated) := kindOf? c then
    return .one ⟨false, .exact, [.kind kind ascii negated]⟩
  if c == '0' then
    let digits ← takeChars isOctalDigit 2
    return .one (.single casing (numberOf 8 digits))
  if c.isDigit then
    match ← codeOrGroup start c with
    | .inl code => return .one (.single casing code)
    | .inr number => return .same number casing
  return .one (.single casing (← escapedCode start c))

end Reader

end DocSite.Pattern

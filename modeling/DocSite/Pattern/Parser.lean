import DocSite.Pattern.Escape

/-! Reading patterns. Groups are opened by what follows their parenthesis, repetitions are
put on the item read last, and flags at the very beginning hold for the whole pattern.
A text that is no pattern gives the failure that comes first. -/

namespace DocSite.Pattern

namespace Width

def zero : Width := ⟨0, some 0⟩

def andThen (a b : Width) : Width :=
  ⟨a.least + b.least, a.most.bind fun m => b.most.map (m + ·)⟩

/-- One part or another. -/
def either (a b : Width) : Width :=
  ⟨min a.least b.least, a.most.bind fun m => b.most.map (max m ·)⟩

def times (a : Width) (least : Nat) (most : Option Nat) : Width :=
  ⟨a.least * least, if a.most == some 0 || most == some 0 then some 0 else
    a.most.bind fun m => most.map (m * ·)⟩

@[simp] theorem zero_then (a : Width) : zero.andThen a = a := by
  cases a with | mk least most => cases most <;> simp [zero, andThen]

end Width

/-- How few and how many characters a pattern can take, given the widths of groups. -/
def width (widths : List (Option Width)) : Pattern → Width
  | .empty | .edge _ | .ahead .. | .behind .. => .zero
  | .one _ => ⟨1, some 1⟩
  | .seq first second => (width widths first).andThen (width widths second)
  | .either first second => (width widths first).either (width widths second)
  | .group body | .capture _ body | .atomic body => width widths body
  | .repeated body least most _ => (width widths body).times least most
  | .same number _ => ((widths[number - 1]?).join).getD .zero
  | .given _ yes no => (width widths yes).either (width widths no)

/-- The farthest that a pattern can look behind. -/
def behindLimit : Nat := 0xFFFFFFFF

/-- No repetition may ask for this many rounds or more. -/
def roundLimit : Nat := 0xFFFFFFFF

/-- What is wrong with a pattern that can be read: something looked at behind that takes
no fixed number of characters, or a repetition in a template. -/
def flaw? (template : Bool) : Pattern → Option Fault
  | .empty | .edge _ | .one _ | .same .. => none
  | .seq first second | .either first second | .given _ first second =>
    (flaw? template first).or (flaw? template second)
  | .group body | .capture _ body | .atomic body | .ahead _ body => flaw? template body
  | .behind _ least most body =>
    if behindLimit < least then some .farBehind
    else if most != some least then some .variableBehind
    else flaw? template body
  | .repeated body _ _ appetite =>
    if template then some (.noRepeatInTemplate (match appetite with
      | .greedy => "MAX_REPEAT"
      | .modest => "MIN_REPEAT"
      | .possessive => "POSSESSIVE_REPEAT"))
    else flaw? template body

def flagOf? : Char → Option Flag
  | 'i' => some .caseless
  | 'm' => some .manyLines
  | 's' => some .anyCharacter
  | 'x' => some .spaced
  | 'a' => some .ascii
  | 'u' => some .wide
  | 't' => some .template
  | _ => none

def isFlag (c : Char) : Bool := c == 'L' || (flagOf? c).isSome

namespace Flag

/-- Whether a flag tells which characters are letters. -/
def isOfText (f : Flag) : Bool := f == .ascii || f == .wide

/-- The flags inside a group that adds some and takes some away. -/
def within (flags added removed : List Flag) : List Flag :=
  let flags := if added.any isOfText then flags.filter fun f => !f.isOfText else flags
  (flags ++ added).filter fun f => !removed.contains f

/-- How far case counts under flags. -/
def casing (flags : List Flag) : Casing :=
  if !flags.contains .caseless then .exact
  else if flags.contains .ascii then .asciiFree else .free

@[simp] theorem within_nil (flags : List Flag) : within flags [] [] = flags := by
  simp [within]

end Flag

inductive Opening
  | nothing
  | item (p : Pattern)
  | plain (flags : List Flag)
  | atomic
  | capture (number : Nat)
  | look (behind present : Bool) (outer : Option Nat)
  | condition (number : Nat)

namespace Reader

/-- One end of a range, or a whole item, of a set that opened at `start`, as it is written
and as it is meant. -/
def setItem (ascii : Bool) (start : Nat) : Reader (String × CharItem) := do
  let here ← position
  let some sign ← peek | fail .unclosedSet start
  advance
  match sign with
  | .escaped c => return (sign.text, ← escapedItem ascii here c)
  | .plain c => return (sign.text, .range c.toNat c.toNat)
  | .dangling => fail .endInEscape here

/-- The range between two items, if both are single characters in order. -/
def rangeBetween? : CharItem → CharItem → Option CharItem
  | .range low _, .range high _ => if high < low then none else some (.range low high)
  | _, _ => none

/-- The items of a set that opened at `start`, up to its closing bracket. -/
def setItems (ascii : Bool) (start : Nat) : Nat → List CharItem → Reader (List CharItem)
  | 0, _ => fail .unclosedSet start
  | fuel + 1, read => do
    if !read.isEmpty then
      if ← skip ']' then return read.reverse
    let (shown, item) ← setItem ascii start
    if !(← skip '-') then return ← setItems ascii start fuel (item :: read)
    if ← skip ']' then return (.range 0x2D 0x2D :: item :: read).reverse
    let (shownEnd, last) ← setItem ascii start
    match rangeBetween? item last with
    | some both => setItems ascii start fuel (both :: read)
    | none =>
      fail (.badRange shown shownEnd) ((← position) - (shown.length + 1 + shownEnd.length))

/-- A set of characters, after its opening bracket at `start`. -/
def characters (flags : List Flag) (start : Nat) : Reader Pattern := do
  let negated ← skip '^'
  let items ← setItems (flags.contains .ascii) start ((← left) + 1) []
  return .one ⟨negated, Flag.casing flags, items⟩

/-- The number that decimal digits are, as a number of rounds. -/
def roundNumber (digits : List Char) : Reader Nat := do
  match Text.decimalValue digits with
  | .error excess => throw (.digits excess)
  | .ok n => if roundLimit ≤ n then throw .tooLarge else return n

/-- The bounds in braces after an opening brace. If these are no bounds, nothing is read. -/
def bounds? : Reader (Option (Nat × Option Nat)) := do
  let here ← position
  let before ← get
  if ← startsWith '\x7d' then return none
  let low ← takeChars Char.isDigit (← left)
  let high ← if ← skip ',' then takeChars Char.isDigit (← left) else pure low
  if !(← skip '\x7d') then
    set before
    return none
  let least ← if low.isEmpty then pure 0 else roundNumber low
  if high.isEmpty then return some (least, none)
  let most ← roundNumber high
  if most < least then fail .boundsCrossed here
  return some (least, some most)

/-- The bounds that a sign of repetition sets, or nothing if it is an ordinary character. -/
def repetition? : Char → Reader (Option (Nat × Option Nat))
  | '?' => return some (0, some 1)
  | '*' => return some (0, none)
  | '+' => return some (1, none)
  | _ => bounds?

/-- Puts a repetition, whose sign began at `start`, on the item read last. -/
def repeatLast (start least : Nat) (most : Option Nat) : List Pattern → Reader (List Pattern)
  | [] | .edge _ :: _ => fail .nothingToRepeat start
  | .repeated .. :: _ => fail .repeatedRepeat start
  | item :: items => do
    if ← skip '?' then return .repeated item least most .modest :: items
    if ← skip '+' then return .repeated item least most .possessive :: items
    return .repeated item least most .greedy :: items

def groupName (closing : Char) : Reader String := do
  let name ← name closing "group name"
  if !Text.isName name then
    fail (.badGroupName (.ofList name)) ((← position) - (name.length + 1))
  return .ofList name

/-- The number of a group whose name, just read, is known. -/
def namedGroup (name : String) : Reader Nat := do
  match (← get).names.lookup name with
  | some number => return number
  | none => fail (.unknownGroupName name) ((← position) - (name.length + 1))

def openNamed : Reader Opening := do
  let name ← groupName '>'
  let number ← openGroup
  if let some earlier := (← get).names.lookup name then
    fail (.repeatedGroupName name number earlier) ((← position) - (name.length + 1))
  modify fun r => { r with names := (name, number) :: r.names }
  return .capture number

/-- The text of the group of a name. -/
def sameAsNamed (flags : List Flag) : Reader Opening := do
  let name ← groupName ')'
  let number ← namedGroup name
  if (← widthOf? number).isNone then fail .openGroup ((← position) - (name.length + 1))
  checkBehind number
  return .item (.same number (Flag.casing flags))

/-- The number that decimal digits with single underscores between them write. -/
def spacedNumber? (value : Nat) : List Char → Option Nat
  | [] => some value
  | '_' :: c :: cs => do spacedNumber? (10 * value + (← Text.decimalOf? c)) cs
  | c :: cs => do spacedNumber? (10 * value + (← Text.decimalOf? c)) cs

/-- The number that a text writes, blanks and a sign aside. Only zero may be negative. -/
def wholeNumber? (cs : List Char) : Option Nat :=
  let cs := Text.trimBoth cs
  let (negative, digits) := match cs with
    | '-' :: rest => (true, rest)
    | '+' :: rest => (false, rest)
    | rest => (false, rest)
  match digits with
  | [] | '_' :: _ => none
  | _ =>
    if Text.digitLimit < (digits.filter (· != '_')).length then none
    else (spacedNumber? 0 digits).filter fun n => !negative || n == 0

def groupLimit : Nat := 0x3FFFFFFF

def conditionGroup : Reader Nat := do
  let name ← name ')' "group name"
  let start := (← position) - (name.length + 1)
  if Text.isName name then return ← namedGroup (.ofList name)
  match wholeNumber? name with
  | none => fail (.badGroupName (.ofList name)) start
  | some 0 => fail .badGroupNumber start
  | some number =>
    if groupLimit ≤ number then fail (.missingGroup number) start
    modify fun r =>
      if (r.asked.lookup number).isSome then r
      else { r with asked := r.asked ++ [(number, start)] }
    return number

def openLook (behind present : Bool) : Reader Opening := do
  let outer := (← get).behindFrom
  if behind && outer.isNone then
    let count ← groupCount
    modify fun r => { r with behindFrom := some count }
  return .look behind present outer

/-- The fault of a sign where a letter of a flag, or something else, should be. -/
def noFlag {α : Type} (sign : Sign) (missing : String) : Reader α := do
  let here := (← position) - sign.chars.length
  match sign with
  | .plain c => if Text.isLetter c then fail .unknownFlag here else fail (.missing missing) here
  | _ => fail (.missing missing) here

/-- The flags from a letter on, up to the sign that ends them. -/
def flagsFrom : Nat → Char → List Flag → Reader (List Flag × Char)
  | 0, _, _ => do fail (.missing "-, : or )") (← position)
  | fuel + 1, letter, read => do
    let some flag := flagOf? letter | fail (.badFlags .locale) (← position)
    let read := if read.contains flag then read else read ++ [flag]
    if flag.isOfText && read.any (fun f => f.isOfText && f != flag) then
      fail (.badFlags .kindsOfText) (← position)
    match ← next with
    | none => fail (.missing "-, : or )") (← position)
    | some (.plain c) =>
      if c == ')' || c == '-' || c == ':' then return (read, c)
      if isFlag c then flagsFrom fuel c read else noFlag (.plain c) "-, : or )"
    | some sign => noFlag sign "-, : or )"

/-- The flags that are taken away, up to the colon. -/
def removedFrom : Nat → Char → List Flag → Reader (List Flag)
  | 0, _, _ => do fail (.missing ":") (← position)
  | fuel + 1, letter, read => do
    let some flag := flagOf? letter | fail (.badFlags .kindTurnedOff) (← position)
    if flag.isOfText then fail (.badFlags .kindTurnedOff) (← position)
    let read := read ++ [flag]
    match ← next with
    | none => fail (.missing ":") (← position)
    | some (.plain c) =>
      if c == ':' then return read
      if isFlag c then removedFrom fuel c read else noFlag (.plain c) ":"
    | some sign => noFlag sign ":"

/-- The flags that a group takes away, after the dash. -/
def removedFlags : Reader (List Flag) := do
  match ← next with
  | none => fail (.missing "flag") (← position)
  | some (.plain c) =>
    if isFlag c then removedFrom ((← left) + 1) c [] else noFlag (.plain c) "flag"
  | some sign => noFlag sign "flag"

/-- A group with flags, whose parenthesis stands at `start` and whose first letter or dash
is read. `first` tells that nothing stands before it in the pattern. -/
def openFlags (flags : List Flag) (first : Bool) (start : Nat) (letter : Char) :
    Reader Opening := do
  let (added, sign) ← if letter == '-' then pure ([], '-')
    else flagsFrom ((← left) + 1) letter []
  if sign == ')' then
    if !first then fail .lateFlags start
    modify fun r => { r with flags := r.flags ++ added }
    return .nothing
  if added.contains .template then fail (.badFlags .turnedOn) ((← position) - 1)
  let removed ← if sign == '-' then removedFlags else pure []
  if removed.contains .template then fail (.badFlags .turnedOff) ((← position) - 1)
  if added.any removed.contains then fail (.badFlags .onAndOff) ((← position) - 1)
  return .plain (Flag.within flags added removed)

def skipComment (start : Nat) : Nat → Reader Unit
  | 0 => fail .unclosedComment start
  | fuel + 1 => do
    if (← peek).isNone then fail .unclosedComment start
    if (← next) == some (.plain ')') then return
    skipComment start fuel

/-- The beginning of a group after its parenthesis at `start`. -/
def opening (flags : List Flag) (first : Bool) (start : Nat) : Reader Opening := do
  if !(← skip '?') then return .capture (← openGroup)
  let some sign ← next | fail .endInGroup (← position)
  let unknown (shown : List Char) : Reader Opening := do
    fail (.unknownGroup (.ofList shown)) ((← position) - (shown.length + 1))
  match sign with
  | .plain ':' => return .plain flags
  | .plain '>' => return .atomic
  | .plain '=' => openLook false true
  | .plain '!' => openLook false false
  | .plain '<' =>
    match ← next with
    | none => fail .endInGroup (← position)
    | some (.plain '=') => openLook true true
    | some (.plain '!') => openLook true false
    | some other => unknown ('<' :: other.chars)
  | .plain '#' =>
    skipComment start ((← left) + 1)
    return .nothing
  | .plain '(' =>
    let number ← conditionGroup
    checkBehind number
    return .condition number
  | .plain 'P' =>
    if ← skip '<' then return ← openNamed
    if ← skip '=' then return ← sameAsNamed flags
    match ← next with
    | none => fail .endInGroup (← position)
    | some other => unknown ('P' :: other.chars)
  | .plain c => if c == '-' || isFlag c then openFlags flags first start c else unknown [c]
  | other => unknown other.chars

/-- Goes past a comment that ends with its line. -/
def skipLine : Nat → Reader Unit
  | 0 => return
  | fuel + 1 => do
    match ← next with
    | none | some (.plain '\n') => return
    | _ => skipLine fuel

/-- A part with what begins and ends it: the closing parenthesis of a group that began
at `start` is gone past. -/
def closing (start : Nat) : Reader Unit := do
  if !(← skip ')') then fail .unclosedGroup start

end Reader

/-- The items of a pattern in order, one after the other. The last of them comes first. -/
def ofItems : List Pattern → Pattern
  | [] => .empty
  | last :: before => before.foldl (fun p item => .seq item p) last

/-- Blanks that count for nothing when a pattern is spaced. -/
def isSpacing (c : Char) : Bool := c == ' ' || (0x09 ≤ c.toNat && c.toNat ≤ 0x0D)

open Reader

mutual

/-- The items up to a bar, a closing parenthesis or the end. The items before stand in
`read`, the last of them first; `top` tells that no group is around and `first` that no
bar was met. -/
def items : Nat → List Flag → Bool → Bool → List Pattern → Reader Pattern
  | 0, _, _, _, read => return ofItems read
  | fuel + 1, flags, top, first, read => do
    let start ← position
    match ← peek with
    | none | some (.plain '|') | some (.plain ')') => return ofItems read
    | some .dangling => fail .endInEscape start
    | some (.escaped c) =>
      advance
      let item ← escaped (Flag.casing flags) (flags.contains .ascii) start c
      items fuel flags top first (item :: read)
    | some (.plain c) =>
      advance
      let literal := Pattern.one (.single (Flag.casing flags) c.toNat)
      if flags.contains .spaced && isSpacing c then items fuel flags top first read
      else if flags.contains .spaced && c == '#' then
        skipLine ((← left) + 1)
        items fuel flags top first read
      else match c with
      | '[' => items fuel flags top first ((← characters flags start) :: read)
      | '.' =>
        let set := if flags.contains .anyCharacter then CharSet.any else .anyInLine
        items fuel flags top first (.one set :: read)
      | '^' =>
        let edge := if flags.contains .manyLines then Edge.lineStart else .start
        items fuel flags top first (.edge edge :: read)
      | '$' =>
        let edge := if flags.contains .manyLines then Edge.lineEnd else .lastLine
        items fuel flags top first (.edge edge :: read)
      | '(' =>
        match ← opening flags (top && first && read.isEmpty) start with
        | .nothing =>
          let whole := (← get).flags
          items fuel (if top then whole else flags) top first read
        | .item item => items fuel flags top first (item :: read)
        | other =>
          let item ← groupBody fuel flags start other
          items fuel flags top first (item :: read)
      | '?' | '*' | '+' | '\x7b' =>
        match ← repetition? c with
        | none => items fuel flags top first (literal :: read)
        | some (least, most) =>
          items fuel flags top first (← repeatLast start least most read)
      | _ => items fuel flags top first (literal :: read)

/-- The rest of a group that began at `start`, after its opening. -/
def groupBody : Nat → List Flag → Nat → Opening → Reader Pattern
  | 0, _, start, _ => fail .unclosedGroup start
  | fuel + 1, flags, start, opening => do
    match opening with
    | .nothing => return .empty
    | .item item => return item
    | .plain inner =>
      let body ← choice fuel inner false true
      closing start
      return .group body
    | .atomic =>
      let body ← choice fuel flags false true
      closing start
      return .atomic body
    | .capture number =>
      let body ← choice fuel flags false true
      closing start
      closeGroup number (width (← get).widths body)
      return .capture number body
    | .look isBehind present outer =>
      let body ← choice fuel flags false true
      if isBehind then modify fun r => { r with behindFrom := outer }
      closing start
      if !isBehind then return .ahead present body
      let w := width (← get).widths body
      return .behind present w.least w.most body
    | .condition number =>
      let yes ← items fuel flags false false []
      let no ← if ← skip '|' then items fuel flags false false [] else pure .empty
      if ← startsWith '|' then fail .thirdBranch (← position)
      closing start
      return .given number yes no

/-- Items between bars, up to a closing parenthesis or the end. -/
def choice : Nat → List Flag → Bool → Bool → Reader Pattern
  | 0, _, _, _ => return .empty
  | fuel + 1, flags, top, first => do
    let one ← items fuel flags top first []
    if !(← skip '|') then return one
    let whole := (← get).flags
    let others ← choice fuel (if top then whole else flags) top false
    return .either one others

end

def wholePattern (fuel : Nat) : Reader Pattern := do
  checkEnd
  let p ← choice fuel [] true true
  let flags := (← get).flags
  if flags.contains .ascii && flags.contains .wide then throw .flagsExclude
  if (← peek).isSome then fail .unopenedGroup (← position)
  let count ← groupCount
  match (← get).asked.find? fun asked => count ≤ asked.1 with
  | some (number, position) => fail (.missingGroup number) position
  | none =>
    match flaw? (flags.contains .template) p with
    | some fault => throw (.whole fault)
    | none => return p

def parse (text : List Char) : Except Failure Pattern :=
  ((wholePattern (3 * text.length + 3)).run
    ⟨Sign.cut 0 text, text.length, [], [], [], [], none⟩).map Prod.fst

end DocSite.Pattern

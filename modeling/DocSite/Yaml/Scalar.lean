import DocSite.Text.Encoding
import DocSite.Yaml.Reading

/-! The tokens that are more than a sign: scalars in quotes, in blocks and plain ones, names,
tags and directives. Line breaks inside a scalar fold: one becomes a space, of several
all but the first stay. -/

namespace DocSite.Yaml

def isNameSign (c : Char) : Bool := c.isAlphanum || c == '-' || c == '_'

def isHexSign (c : Char) : Bool := (Text.digitValue? 16 c).isSome

def isAddressSign (c : Char) : Bool :=
  c.isAlphanum || "-;/?:@&=+$,_.!~*'()[]%".toList.contains c

/-- What the line breaks between two parts of a scalar fold to. -/
def folded (first : Char) (others : List Char) : List Char :=
  (if first != '\n' then [first] else if others.isEmpty then [' '] else []) ++ others

/-- The character that a letter stands for after a backslash. -/
def escapeOf? (c : Char) : Option Char :=
  [('0', '\x00'), ('a', '\x07'), ('b', '\x08'), ('t', '\t'), ('\t', '\t'), ('n', '\n'),
   ('v', '\x0b'), ('f', '\x0c'), ('r', '\r'), ('e', '\x1b'), (' ', ' '), ('"', '"'),
   ('\\', '\\'), ('/', '/'), ('N', '\x85'), ('_', '\xa0'), ('L', '\u2028'),
   ('P', '\u2029')].lookup c

/-- How many hexadecimal digits follow a letter after a backslash. -/
def escapeLength? : Char → Option Nat
  | 'x' => some 2
  | 'u' => some 4
  | 'U' => some 8
  | _ => none

namespace Reader

/-! ### Scalars in quotes -/

/-- The character of a code of a number of digits, in a scalar that began at `start`. -/
def codedChar (start : Mark) (length : Nat) : Reader Char := do
  let doing := "while scanning a double-quoted scalar"
  let digits ← (List.range length).mapM fun k => do
    let c ← peekAt k
    if !isHexSign c then
      refuseSign doing start ("expected escape sequence of " ++ toString length ++
        " hexadecimal numbers") k
    return c
  let code := Text.digitsValue 16 digits
  if 0x7FFFFFFF < code then throw (.value .largeCode)
  if 0x10FFFF < code then throw (.value .noCharacter)
  steps length
  return Text.charOfCode code

/-- Blanks and line breaks in a scalar in quotes, of which the breaks stay. -/
def quotedBreaks (start : Mark) : Nat → Reader (List Char)
  | 0 => return []
  | fuel + 1 => do
    if (← get).atSeparator then
      refuseHere "while scanning a quoted scalar" start "found unexpected document separator"
    skipWhile fun c => c == ' ' || c == '\t'
    match ← lineBreak with
    | some c => return c :: (← quotedBreaks start fuel)
    | none => return []

/-- The blanks between two parts of a scalar in quotes. -/
def quotedGap (start : Mark) : Reader (List Char) := do
  let blanks ← takeWhile fun c => c == ' ' || c == '\t'
  if (← peek) == endSign then
    refuseHere "while scanning a quoted scalar" start "found unexpected end of stream"
  match ← lineBreak with
  | some first => return folded first (← quotedBreaks start ((← get).left + 1))
  | none => return blanks

/-- What a backslash, which is gone past, stands for in double quotes. -/
def escape (start : Mark) : Reader (List Char) := do
  let c ← peek
  if let some e := escapeOf? c then
    step
    return [e]
  if let some length := escapeLength? c then
    step
    return [← codedChar start length]
  match ← lineBreak with
  | some _ => quotedBreaks start ((← get).left + 1)
  | none =>
    refuseHere "while scanning a double-quoted scalar" start
      ("found unknown escape character " ++ Text.quoted (.ofList [c]))

/-- The characters of a scalar in quotes up to a blank, a line break or the end. -/
def quotedWord (double : Bool) (start : Mark) : Nat → Reader (List Char)
  | 0 => return []
  | fuel + 1 => do
    let plain ← takeWhile fun c => !isGap c && c != '\'' && c != '"' && c != '\\'
    let c ← peek
    if c == '\'' && !double && (← peekAt 1) == '\'' then
      steps 2
      return plain ++ '\'' :: (← quotedWord double start fuel)
    if (c == '\'' && double) || ((c == '"' || c == '\\') && !double) then
      step
      return plain ++ c :: (← quotedWord double start fuel)
    if c == '\\' && double then
      step
      let es ← escape start
      return plain ++ es ++ (← quotedWord double start fuel)
    return plain

/-- The rest of a scalar in quotes, with the closing quote. -/
def quotedRest (quote : Char) (start : Mark) : Nat → Reader (List Char)
  | 0 => return []
  | fuel + 1 => do
    if (← peek) == quote then
      step
      return []
    let gap ← quotedGap start
    let word ← quotedWord (quote == '"') start ((← get).left + 1)
    return gap ++ word ++ (← quotedRest quote start fuel)

def quotedScalar : Reader Unit := do
  let start ← here
  let quote ← peek
  step
  let word ← quotedWord (quote == '"') start ((← get).left + 1)
  let rest ← quotedRest quote start ((← get).left + 1)
  put (.scalar (.ofList (word ++ rest)) false) start (← here)

/-! ### Scalars in blocks -/

/-- What becomes of the line breaks at the end of a scalar in a block. -/
inductive Chomping
  | strip
  | clip
  | keep
deriving DecidableEq, Repr

def chomping : Reader (Option Chomping) := do
  match ← peek with
  | '+' =>
    step
    return some .keep
  | '-' =>
    step
    return some .strip
  | _ => return none

/-- The digit that tells how far a block is indented, if one is next. -/
def indentation (start : Mark) : Reader (Option Nat) := do
  let c ← peek
  if !c.isDigit then return none
  if c == '0' then
    refuseHere "while scanning a block scalar" start
      "expected indentation indicator in the range 1-9, but found 0"
  step
  return some (c.toNat - '0'.toNat)

/-- The signs after that of a block, in either order. -/
def blockSigns (start : Mark) : Reader (Chomping × Option Nat) := do
  let first ← chomping
  let digit ← indentation start
  let last ← if first.isNone && digit.isSome then chomping else pure none
  if !isWordEnd (← peek) then
    refuseSign "while scanning a block scalar" start
      "expected chomping or indentation indicators" 0
  return ((first.or last).getD .clip, digit)

/-- The rest of a line that may hold a comment alone. -/
def restOfLine (doing : String) (start : Mark) : Reader Unit := do
  skipSpaces
  skipComment
  if !isLineEnd (← peek) then refuseSign doing start "expected a comment or a line break" 0
  let _ ← lineBreak

/-- The empty lines before a block and the largest indentation of them or of the first
line of the block. -/
def blankLines : Nat → Nat → Reader (List Char × Nat)
  | 0, widest => return ([], widest)
  | fuel + 1, widest => do
    if (← peek) == ' ' then
      step
      return ← blankLines fuel (max widest (← here).column)
    match ← lineBreak with
    | some c =>
      let (cs, widest) ← blankLines fuel widest
      return (c :: cs, widest)
    | none => return ([], widest)

/-- Goes past spaces up to a column. -/
def skipIndent (indent : Nat) : Reader Unit := do
  let _ ← takeUpTo (· == ' ') (indent - (← here).column)

/-- The line breaks before the next line of a block. -/
def blockBreaks (indent : Nat) : Nat → Reader (List Char)
  | 0 => return []
  | fuel + 1 => do
    skipIndent indent
    match ← lineBreak with
    | some c => return c :: (← blockBreaks indent fuel)
    | none => return []

/-- The lines of a block after the line breaks `breaks`. Gives the text up to the end of the
last line, the break after it, and the empty lines after that. -/
def blockLines (isFolded : Bool) (indent : Nat) (breaks : List Char) (last : List Char) :
    Nat → Reader (List Char × List Char × List Char)
  | 0 => return ([], last, breaks)
  | fuel + 1 => do
    let inBlock (r : Reading) : Bool := r.here.column == indent && r.charAt 0 != endSign
    let isBlank (c : Char) : Bool := c == ' ' || c == '\t'
    if !inBlock (← get) then return ([], last, breaks)
    let deeper := isBlank (← peek)
    let line ← takeWhile fun c => !isLineEnd c
    let last := (← lineBreak).toList
    let next ← blockBreaks indent ((← get).left + 1)
    let joint ← if inBlock (← get) then
        if isFolded && last == ['\n'] && !deeper && !isBlank (← peek) then
          pure (if next.isEmpty then [' '] else [])
        else pure last
      else pure []
    let (text, last, after) ← blockLines isFolded indent next last fuel
    return (breaks ++ line ++ joint ++ text, last, after)

def blockScalar : Reader Unit := do
  let start ← here
  let isFolded := (← peek) == '>'
  step
  let (chomp, digit) ← blockSigns start
  restOfLine "while scanning a block scalar" start
  let least := ((← get).indent + 1).toNat.max 1
  let (breaks, indent) ← match digit with
    | some n => do
      let indent := least + n - 1
      pure (← blockBreaks indent ((← get).left + 1), indent)
    | none => do
      let (breaks, widest) ← blankLines ((← get).left + 1) 0
      pure (breaks, max least widest)
  let (text, last, after) ← blockLines isFolded indent breaks [] ((← get).left + 1)
  let text := match chomp with
    | .strip => text
    | .clip => text ++ last
    | .keep => text ++ last ++ after
  put (.scalar (.ofList text) false) start (← here)

/-! ### Plain scalars -/

/-- How many characters of a plain scalar stand here without a blank. -/
def plainLength (inBrackets : Bool) (r : Reading) : Nat → Nat → Nat
  | 0, length => length
  | fuel + 1, length =>
    let c := r.charAt length
    let next := r.charAt (length + 1)
    let isSign (c : Char) (signs : String) : Bool := signs.toList.contains c
    if isGap c || (c == ':' && (isGap next || (inBrackets && isSign next ",[]\x7b\x7d"))) ||
        (inBrackets && isSign c ",?[]\x7b\x7d") then length
    else plainLength inBrackets r fuel (length + 1)

/-- The line breaks inside a plain scalar; none at all if a separator follows one. -/
def plainBreaks : Nat → Reader (Option (List Char))
  | 0 => return some []
  | fuel + 1 => do
    if (← get).atSeparator then return none
    skipSpaces
    match ← lineBreak with
    | some c => return (← plainBreaks fuel).map (c :: ·)
    | none => return some []

/-- The blanks between two words of a plain scalar. -/
def plainGap : Reader (List Char) := do
  let blanks ← takeWhile (· == ' ')
  match ← lineBreak with
  | none => return blanks
  | some first =>
    modify fun r => { r with keyAllowed := true }
    match ← plainBreaks ((← get).left + 1) with
    | some others => return folded first others
    | none => return []

/-- The words of a plain scalar after the blanks `gap`, and where the last one ends. -/
def plainWords (gap : List Char) (stop : Mark) : Nat → Reader (List Char × Mark)
  | 0 => return ([], stop)
  | fuel + 1 => do
    let r ← get
    let inBrackets := r.depth != 0
    let length := plainLength inBrackets r (r.left + 1) 0
    if r.charAt 0 == '#' || length == 0 then return ([], stop)
    modify fun r => { r with keyAllowed := false }
    let word ← takeUpTo (fun _ => true) length
    let stop ← here
    let next ← plainGap
    let r ← get
    if next.isEmpty || r.charAt 0 == '#' || (!inBrackets && r.here.column < r.indent + 1) then
      return (gap ++ word, stop)
    let (rest, stop) ← plainWords next stop fuel
    return (gap ++ word ++ rest, stop)

def plainScalar : Reader Unit := do
  let start ← here
  let (text, stop) ← plainWords [] start ((← get).left + 1)
  put (.scalar (.ofList text) true) start stop

/-! ### Names and tags -/

/-- The name of an anchor or of an alias, with its sign. -/
def anchorName (what : String) : Reader (String × Mark) := do
  let start ← here
  let doing := "while scanning an " ++ what
  let expected := "expected alphabetic or numeric character"
  step
  let name ← takeWhile isNameSign
  if name.isEmpty then refuseSign doing start expected 0
  let c ← peek
  if !isGap c && !"?:,]\x7d%@`".toList.contains c then refuseSign doing start expected 0
  return (.ofList name, start)

def anchorToken : Reader Unit := do
  let (name, start) ← anchorName "anchor"
  put (.anchor name) start (← here)

def aliasToken : Reader Unit := do
  let (name, start) ← anchorName "alias"
  put (.alias name) start (← here)

/-- The handle of a tag: an exclamation mark, or a name between two of them. -/
def tagHandle (what : String) (start : Mark) : Reader String := do
  let doing := "while scanning a " ++ what
  if (← peek) != '!' then refuseSign doing start "expected '!'" 0
  step
  if (← peek) == ' ' then return "!"
  let name ← takeWhile isNameSign
  if (← peek) != '!' then refuseSign doing start "expected '!'" 0
  step
  return .ofList ('!' :: name ++ ['!'])

/-- The characters of bytes that are written by their codes. -/
def addressEscapes (what : String) (start : Mark) : Reader (List Char) := do
  let first ← here
  let bytes ← escapedBytes ((← get).left + 1)
  match Text.Encoding.decode .utf8 bytes with
  | .ok cs => return cs
  | .error fault =>
    refuse .scanning (some ("while scanning a " ++ what)) (some start) fault.message first
where
  escapedBytes : Nat → Reader Text.Bytes
    | 0 => return []
    | fuel + 1 => do
      if (← peek) != '%' then return []
      step
      let digits ← [0, 1].mapM fun k => do
        let c ← peekAt k
        if !isHexSign c then
          refuseSign ("while scanning a " ++ what) start
            "expected URI escape sequence of 2 hexadecimal numbers" k
        return c
      steps 2
      return UInt8.ofNat (Text.digitsValue 16 digits) :: (← escapedBytes fuel)

def addressChars (what : String) (start : Mark) : Nat → Reader (List Char)
  | 0 => return []
  | fuel + 1 => do
    let plain ← takeWhile fun c => isAddressSign c && c != '%'
    if (← peek) != '%' then return plain
    let escapes ← addressEscapes what start
    return plain ++ escapes ++ (← addressChars what start fuel)

def address (what : String) (start : Mark) : Reader String := do
  let before := (← here).position
  let cs ← addressChars what start ((← get).left + 1)
  if (← here).position == before then
    refuseSign ("while parsing a " ++ what) start "expected URI" 0
  return .ofList cs

/-- Whether an exclamation mark stands in the word after the next character. -/
def hasHandle (r : Reading) : Nat → Nat → Bool
  | 0, _ => false
  | fuel + 1, offset =>
    let c := r.charAt offset
    if isWordEnd c then false else c == '!' || hasHandle r fuel (offset + 1)

/-- A tag: an address in angles, an exclamation mark alone, or a handle and an address. -/
def tagToken : Reader Unit := do
  let start ← here
  let next ← peekAt 1
  let kind ← if next == '<' then do
      steps 2
      let suffix ← address "tag" start
      if (← peek) != '>' then refuseSign "while parsing a tag" start "expected '>'" 0
      step
      pure (TokenKind.tag none suffix)
    else if isGap next then do
      step
      pure (TokenKind.tag none "!")
    else do
      let r ← get
      let handle ← if hasHandle r (r.left + 1) 1 then tagHandle "tag" start
        else do
          step
          pure "!"
      pure (TokenKind.tag (some handle) (← address "tag" start))
  if !isWordEnd (← peek) then refuseSign "while scanning a tag" start "expected ' '" 0
  put kind start (← here)

/-! ### Directives -/

def directiveNumber (start : Mark) : Reader Nat := do
  let digits ← takeWhile Char.isDigit
  if digits.isEmpty then refuseSign "while scanning a directive" start "expected a digit" 0
  return Text.digitsValue 10 digits

def versionDirective (start : Mark) : Reader TokenKind := do
  let doing := "while scanning a directive"
  skipSpaces
  let major ← directiveNumber start
  if (← peek) != '.' then refuseSign doing start "expected a digit or '.'" 0
  step
  let _ ← directiveNumber start
  if !isWordEnd (← peek) then refuseSign doing start "expected a digit or ' '" 0
  return .versionDirective major

def tagDirective (start : Mark) : Reader TokenKind := do
  let doing := "while scanning a directive"
  skipSpaces
  let handle ← tagHandle "directive" start
  if (← peek) != ' ' then refuseSign doing start "expected ' '" 0
  skipSpaces
  let lead ← address "directive" start
  if !isWordEnd (← peek) then refuseSign doing start "expected ' '" 0
  return .tagDirective handle lead

def directiveToken : Reader Unit := do
  let start ← here
  let doing := "while scanning a directive"
  let expected := "expected alphabetic or numeric character"
  step
  let name ← takeWhile isNameSign
  if name.isEmpty then refuseSign doing start expected 0
  if !isWordEnd (← peek) then refuseSign doing start expected 0
  let kind ← if name == "YAML".toList then versionDirective start
    else if name == "TAG".toList then tagDirective start
    else pure .otherDirective
  let stop ← here
  if kind == .otherDirective then skipWhile fun c => !isLineEnd c
  restOfLine doing start
  put kind start stop

end Reader

end DocSite.Yaml

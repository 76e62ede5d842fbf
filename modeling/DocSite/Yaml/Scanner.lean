import DocSite.Yaml.Scalar

/-! Cutting a YAML text into tokens. Each sign that begins a token also tells whether a key
may begin there or has to end before. A colon makes the scalar before it a key, and the
tokens that say so are put before that scalar. A block begins with its first entry
and ends with the first line that is indented less. -/

namespace DocSite.Yaml.Reader

/-- The most characters between the beginning of a key and its colon. -/
def keyLimit : Nat := 1024

/-- Refuses the text because a key that has to be there has no colon. -/
def refuseKey {α : Type} (key : PossibleKey) : Reader α :=
  refuseHere "while scanning a simple key" key.place "could not find expected ':'"

/-- Gives up the places of keys that lie on another line or too far back. -/
def dropStaleKeys : Reader Unit := do
  let r ← get
  let isStale (key : PossibleKey) : Bool :=
    key.place.line != r.here.line || keyLimit < r.here.position - key.place.position
  match r.keys.find? fun entry => isStale entry.2 && entry.2.required with
  | some (_, key) => refuseKey key
  | none => set { r with keys := r.keys.filter fun entry => !isStale entry.2 }

/-- Gives up the place of a key at the depth of the reader. -/
def dropKey : Reader Unit := do
  let r ← get
  match r.keys.lookup r.depth with
  | none => return
  | some key =>
    if key.required then refuseKey key
    set { r with keys := r.keys.filter fun entry => entry.1 != r.depth }

/-- Keeps the place as one where a key may begin. -/
def keepKey : Reader Unit := do
  let r ← get
  if r.keyAllowed then
    dropKey
    let required := r.depth == 0 && r.indent == r.here.column
    modify fun r => { r with
      keys := r.keys ++ [(r.depth, ⟨r.taken + r.tokens.length, required, r.here⟩)] }

def allowKey (allowed : Bool) : Reader Unit := modify fun r => { r with keyAllowed := allowed }

/-- Ends the blocks that are indented more than a column. -/
def unwind (column : Int) : Nat → Reader Unit
  | 0 => return
  | fuel + 1 => do
    let r ← get
    if r.depth != 0 || r.indent ≤ column then return
    set { r with indent := r.indents.headD (-1), indents := r.indents.tail }
    putEmpty .blockEnd
    unwind column fuel

/-- Ends the blocks that are indented more than a column. -/
def unwindTo (column : Int) : Reader Unit := do
  unwind column ((← get).indents.length + 1)

/-- Begins a block at a column, if it is deeper than the block around, and tells whether
it did. -/
def indentTo (column : Nat) : Reader Bool := do
  let r ← get
  if r.indent < column then
    set { r with indent := (column : Int), indents := r.indent :: r.indents }
    return true
  return false

/-- Puts a token before those that wait, at the number that a key was given. -/
def insert (key : PossibleKey) (kind : TokenKind) : Reader Unit :=
  modify fun r =>
    let index := key.token - r.taken
    { r with tokens :=
        r.tokens.take index ++ ⟨kind, key.place, key.place⟩ :: r.tokens.drop index }

def endStream : Reader Unit := do
  unwindTo (-1)
  dropKey
  modify fun r => { r with keyAllowed := false, keys := [] }
  putEmpty .streamEnd
  modify fun r => { r with ended := true }

/-- The end of all blocks before a line that is no part of the document. -/
def leaveBlocks : Reader Unit := do
  unwindTo (-1)
  dropKey
  allowKey false

def openBracket (kind : TokenKind) : Reader Unit := do
  keepKey
  modify fun r => { r with depth := r.depth + 1, keyAllowed := true }
  putSigns kind 1

def closeBracket (kind : TokenKind) : Reader Unit := do
  dropKey
  modify fun r => { r with depth := r.depth - 1, keyAllowed := false }
  putSigns kind 1

/-- The comma between entries in brackets. -/
def flowEntry : Reader Unit := do
  allowKey true
  dropKey
  putSigns .flowEntry 1

/-- Outside brackets, begins a block at an entry of some kind, which has to be allowed. -/
def startBlock (what : String) (kind : TokenKind) : Reader Unit := do
  let r ← get
  if r.depth != 0 then return
  if !r.keyAllowed then refuse .scanning none none (what ++ " are not allowed here") r.here
  if ← indentTo r.here.column then putEmpty kind

/-- The dash of an entry. -/
def blockEntry : Reader Unit := do
  startBlock "sequence entries" .blockSequenceStart
  allowKey true
  dropKey
  putSigns .blockEntry 1

/-- The question mark of a key. -/
def keySign : Reader Unit := do
  startBlock "mapping keys" .blockMappingStart
  allowKey ((← get).depth == 0)
  dropKey
  putSigns .key 1

/-- The colon of a value. -/
def valueSign : Reader Unit := do
  let r ← get
  match r.keys.lookup r.depth with
  | some key =>
    set { r with keys := r.keys.filter fun entry => entry.1 != r.depth }
    insert key .key
    if r.depth == 0 then
      if ← indentTo key.place.column then insert key .blockMappingStart
    allowKey false
  | none =>
    startBlock "mapping values" .blockMappingStart
    allowKey ((← get).depth == 0)
    dropKey
  putSigns .value 1

def asKey (token : Reader Unit) : Reader Unit := do
  keepKey
  allowKey false
  token

/-- Goes past blanks, comments and line breaks; a key may begin on a new line. -/
def skipGaps : Nat → Reader Unit
  | 0 => return
  | fuel + 1 => do
    skipSpaces
    skipComment
    match ← lineBreak with
    | some _ =>
      if (← get).depth == 0 then allowKey true
      skipGaps fuel
    | none => return

def startsPlain (r : Reading) : Bool :=
  let c := r.charAt 0
  !(isGap c || "-?:,[]\x7b\x7d#&*!|>'\"%@`".toList.contains c) ||
    (!isGap (r.charAt 1) && (c == '-' || (r.depth == 0 && (c == '?' || c == ':'))))

/-- Reads the next token. -/
def fetch : Reader Unit := do
  if (← get).here.position == 0 && (← peek) == '\ufeff' then step
  skipGaps ((← get).left + 1)
  dropStaleKeys
  unwindTo (← here).column
  let r ← get
  let c := r.charAt 0
  let atGap := isGap (r.charAt 1)
  let inBrackets := r.depth != 0
  let inFirst := r.here.column == 0
  if c == endSign then endStream
  else if c == '%' && inFirst then
    leaveBlocks
    directiveToken
  else if inFirst && r.atSigns '-' then
    leaveBlocks
    putSigns .documentStart 3
  else if inFirst && r.atSigns '.' then
    leaveBlocks
    putSigns .documentEnd 3
  else if c == '[' then openBracket .flowSequenceStart
  else if c == '\x7b' then openBracket .flowMappingStart
  else if c == ']' then closeBracket .flowSequenceEnd
  else if c == '\x7d' then closeBracket .flowMappingEnd
  else if c == ',' then flowEntry
  else if c == '-' && atGap then blockEntry
  else if c == '?' && (inBrackets || atGap) then keySign
  else if c == ':' && (inBrackets || atGap) then valueSign
  else if c == '*' then asKey aliasToken
  else if c == '&' then asKey anchorToken
  else if c == '!' then asKey tagToken
  else if (c == '|' || c == '>') && !inBrackets then
    allowKey true
    dropKey
    blockScalar
  else if c == '\'' || c == '"' then asKey quotedScalar
  else if startsPlain r then asKey plainScalar
  else
    refuse .scanning (some "while scanning for the next token") none
      ("found character " ++ Text.quoted (.ofList [c]) ++ " that cannot start any token") r.here

/-- Reads tokens until the first that waits cannot become a key any more. -/
def fill : Nat → Reader Unit
  | 0 => return
  | fuel + 1 => do
    if (← get).ended then return
    if (← get).tokens.isEmpty then
      fetch
      fill fuel
    else
      dropStaleKeys
      let r ← get
      if r.keys.any fun entry => entry.2.token == r.taken then
        fetch
        fill fuel

def nextToken : Reader Token := do
  fill ((← get).left + 2)
  let r ← get
  return r.tokens.headD ⟨.streamEnd, r.here, r.here⟩

/-- Goes past the next token, and gives it. -/
def takeToken : Reader Token := do
  let token ← nextToken
  modify fun r => { r with tokens := r.tokens.tail, taken := r.taken + 1 }
  return token

def nextIs (kinds : List TokenKind) : Reader Bool := return kinds.contains (← nextToken).kind

/-- Goes past the next token, if it is of a kind. -/
def takeIf (kind : TokenKind) : Reader (Option Token) := do
  if ← nextIs [kind] then return some (← takeToken) else return none

end DocSite.Yaml.Reader

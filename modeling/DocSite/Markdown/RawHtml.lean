import DocSite.Markdown.Serializer

/-! Markup in a source. A block of it is set aside as a whole, together with what stands on the
line after it; markup inside a line stays, and is looked at again with the line. The
reader goes through the text twice: what the first pass cannot finish, such as a tag without
its end, the second pass takes as the end of the text. It keeps the line and the column
of the tag it is at; both go on over the second pass, which has only the rest of the
text, so that they may then point past a tag. -/

namespace DocSite.Markdown

/-- A tag that begins: its name, its attributes, and the blanks after them. -/
def openTagPattern : Pattern := .ofText <|
  "<[a-zA-Z][^`\\t\\n\\r\\f />\\x00]*(?:[\\s/]*(?:(?<=['\"\\s/])[^`\\s/>][^\\s/=>]*" ++
  "(?:\\s*=+\\s*(?:'[^']*'|\"[^\"]*\"|(?!['\"])[^`>\\s]*)(?:\\s*,)*)?(?:\\s|/(?!>))*)*)?\\s*"

/-- The name of a tag, and what stands before its attributes. -/
def tagNamePattern : Pattern := .ofText "([a-zA-Z][^\\t\\n\\r\\f />\\x00]*)(?:\\s|/(?!>))*"

/-- An attribute, and what stands before the next one. -/
def tagAttributePattern : Pattern := .ofText <|
  "((?<=['\"\\s/])[^\\s/>][^\\s/=>]*)(\\s*=+\\s*('[^']*'|\"[^\"]*\"|(?!['\"])[^>\\s]*))?" ++
  "(?:\\s|/(?!>))*"

def closeTagPattern : Pattern := .ofText "</\\s*([a-zA-Z][-.a-zA-Z0-9:_]*)\\s*>"

/-- A reference by a code and the character after it. -/
def codeReferencePattern : Pattern := .ofText "&#(?:[0-9]+|[xX][0-9a-fA-F]+)[^0-9a-fA-F]"

def nameReferencePattern : Pattern := .ofText "&([a-zA-Z][-.a-zA-Z0-9]*);"

/-- The end of a section of text without markup. -/
def sectionEndPattern : Pattern := .ofText "]\\s*]\\s*>"

def commentEndPattern : Pattern := .ofText "--!?>"

/-- The end of a comment right after its beginning. -/
def emptyCommentPattern : Pattern := .ofText "-?>"

/-- An empty line after the rest of a line. -/
def blankLinePattern : Pattern := .ofText "^([ ]*\\n)\x7b2\x7d"

/-- The signs at which a reader of markup stops. -/
def markupSignPattern : Pattern := .ofText "[&<]"

/-- The tag that ends a script or a style, which hold no other markup. -/
def verbatimEndPattern (tag : String) : Pattern := .ofText ("(?i)</\\s*" ++ tag ++ "\\s*>")

/-- The elements that hold text alone. -/
def verbatimTags : List String := ["script", "style"]

/-- The state of a reader of markup. `lines` are the positions where lines begin, as far as
they were asked for. `block` is the markup of the block that is open, and `unclosed` are its
tags; `afterBlock` tells that the line after a block is not over. `pieces` is what the reader
has put out, the last piece first. -/
structure MarkupReader where
  text : Array Char
  line : Nat := 0
  column : Nat := 0
  lines : Array Nat := #[0]
  inBlock : Bool := false
  afterBlock : Bool := false
  unclosed : List String := []
  block : List Char := []
  pieces : List (List Char) := []
  kept : Kept
  verbatim : Option String := none
  restarts : Bool := false

abbrev MarkupM := StateM MarkupReader

namespace MarkupReader

/-- The characters between two positions. -/
def slice (r : MarkupReader) (start stop : Nat) : List Char := (r.text.extract start stop).toList

def holdsAt (r : MarkupReader) (s : String) (position : Nat) : Bool :=
  let cs := s.toList
  r.slice position (position + cs.length) == cs

/-- The position of a character, from a position on. -/
def indexFrom? (r : MarkupReader) (c : Char) (start : Nat) : Option Nat :=
  if r.text.size < start then none
  else ((r.text.extract start r.text.size).toList.idxOf? c).map (start + ·)

/-- The positions where lines begin, up to a line. -/
def linesUpTo (r : MarkupReader) : Nat → Array Nat → Array Nat
  | 0, lines => lines
  | count + 1, lines =>
    let stop := (r.indexFrom? '\n' (lines.back?.getD 0)).getD r.text.size
    linesUpTo r count (lines.push (stop + 1))

end MarkupReader

namespace MarkupM

def lineStart : MarkupM Nat := do
  let r ← get
  let lines := r.linesUpTo (r.line + 1 - r.lines.size) r.lines
  set { r with lines }
  return lines.getD r.line 0

/-- The position that the line and the column stand for. -/
def here : MarkupM Nat := return (← lineStart) + (← get).column

/-- Whether at most three blanks stand before the reader in its line. -/
def atLineStart : MarkupM Bool := do
  let start ← lineStart
  let r ← get
  return r.column == 0 ||
    (r.column ≤ 3 && (r.slice start (start + r.column)).all Text.isBlank)

/-- Moves the line and the column from one position to another, and gives the latter. -/
def moveTo (start stop : Nat) : MarkupM Nat := do
  let r ← get
  let (start, stop) := if r.restarts then (0, 1) else (start, stop)
  let passed := r.slice start stop
  let breaks := passed.count '\n'
  let after := (passed.reverse.takeWhile (· != '\n')).length
  set { r with restarts := false, line := r.line + breaks
               column := if breaks == 0 then r.column + (stop - start) else after }
  return stop

def put (cs : List Char) : MarkupM Unit := modify fun r => { r with pieces := cs :: r.pieces }

/-- Adds to the block that is open. -/
def putInBlock (cs : List Char) : MarkupM Unit := modify fun r => { r with block := r.block ++ cs }

/-- Sets markup aside, and puts out its mark and an empty line. -/
def putAside (cs : List Char) : MarkupM Unit := do
  let r ← get
  let (aside, kept) := r.kept.put cs
  set { r with kept }
  put aside
  put ['\n', '\n']

def text (cs : List Char) : MarkupM Unit := do
  if cs.contains '\n' then modify fun r => { r with afterBlock := false }
  if (← get).inBlock then putInBlock cs else put cs

/-- Whether an empty line follows, a number of characters after the reader. -/
def blankLineAfter (length : Nat) : MarkupM Bool := do
  let start := (← here) + length
  let r ← get
  return blankLinePattern.begins (r.slice start r.text.size)

/-- Markup that is complete in itself, and whether it stands on lines of its own. -/
def whole (cs : List Char) (isBlock : Bool) : MarkupM Unit := do
  let r ← get
  if r.inBlock || r.afterBlock then putInBlock cs
  else
    let starts ← atLineStart
    if starts && isBlock then
      let cs ← if ← blankLineAfter cs.length then pure (cs ++ ['\n']) else do
        modify fun r => { r with afterBlock := true }
        pure cs
      let last := (← get).pieces.headD []
      if last.getLast? == some '\n' && last.dropLast.getLast? != some '\n' then put ['\n']
      putAside cs
    else put cs

def startTag (tag : String) (cs : List Char) : MarkupM Unit := do
  if tag == "hr" then whole cs true
  else
    let starts ← atLineStart
    let r ← get
    if isBlockName tag.toList && (r.afterBlock || starts) then
      modify fun r => { r with inBlock := true }
      put ['\n']
    if (← get).inBlock then
      modify fun r => { r with unclosed := tag :: r.unclosed }
      putInBlock cs
    else
      put cs
      if verbatimTags.contains tag then modify fun r => { r with verbatim := none }

/-- A tag that ends an element. The block that is open ends with the first of its tags. -/
def endTag (tag : String) : MarkupM Unit := do
  let start ← here
  let r ← get
  let cs := match r.indexFrom? '>' start with
    | some stop => r.slice start (stop + 1)
    | none => "</".toList ++ tag.toList ++ ['>']
  if !r.inBlock then put cs
  else
    putInBlock cs
    if r.unclosed.contains tag then
      modify fun r => { r with unclosed := (r.unclosed.dropWhile (· != tag)).tail }
    if (← get).unclosed.isEmpty then
      if ← blankLineAfter cs.length then putInBlock ['\n']
      else modify fun r => { r with afterBlock := true }
      let r ← get
      set { r with inBlock := false, block := [] }
      putAside r.block

/-- A comment. One that does not end as comments do is not taken as one: its first sign is
text, and the reader begins anew after the first sign of all. -/
def comment (cs : List Char) : MarkupM Unit := do
  let stop := (← here) + cs.length + 4
  if (← get).holdsAt "-->" stop then whole ("<!--".toList ++ cs ++ "-->".toList) true
  else
    text ['<']
    modify fun r => { r with restarts := true }

/-- Where a tag that begins at a position ends, if it does. -/
def tagStop? (start : Nat) : MarkupM (Option Nat) := do
  let r ← get
  let stop := ((openTagPattern.foundAt? r.text start).map Pattern.Found.stop).getD start
  match r.text[stop]? with
  | none => return none
  | some c =>
    if c == '>' then return some (stop + 1)
    if c == '/' then return if r.holdsAt "/>" stop then some (stop + 2) else none
    if c.isAlpha || c == '=' then return none
    return some (if start < stop then stop else start + 1)

/-- The position after the attributes of a tag. -/
def skipAttributes (r : MarkupReader) (stop : Nat) : Nat → Nat → Nat
  | 0, position => position
  | fuel + 1, position =>
    if stop ≤ position then position
    else match tagAttributePattern.foundAt? r.text position with
      | none => position
      | some f => if f.stop == position then position else skipAttributes r stop fuel f.stop

/-- A tag that begins at a position; gives where the reader goes on. -/
def readStartTag (start : Nat) : MarkupM Nat := do
  let r ← get
  if r.holdsAt "</>" start then
    text "</>".toList
    return start + 3
  match ← tagStop? start with
  | none =>
    text (r.slice start (start + 1))
    return start + 1
  | some stop =>
    match tagNamePattern.foundAt? r.text (start + 1) with
    | none => return stop
    | some f =>
      let tag := Text.lower (.ofList (f.group 1))
      let attributesStop := skipAttributes r stop (r.text.size + 1) f.stop
      let ending := Text.trimBoth (r.slice attributesStop stop)
      let cs := r.slice start stop
      if ending == "/>".toList then whole cs (isBlockName tag.toList)
      else if ending == ['>'] then
        if verbatimTags.contains tag then modify fun r => { r with verbatim := some tag }
        startTag tag cs
      else text cs
      return stop

/-- Markup that begins like a declaration but is none, up to the next closing angle. -/
def readBogus (start : Nat) : MarkupM (Option Nat) := do
  let r ← get
  match r.indexFrom? '>' (start + 2) with
  | none => return none
  | some stop =>
    whole (r.slice start (stop + 1)) false
    return some (stop + 1)

/-- A tag that ends an element, at a position; nothing if it has no end. -/
def readEndTag (start : Nat) : MarkupM (Option Nat) := do
  let r ← get
  let some angle := r.indexFrom? '>' (start + 1) | return none
  match closeTagPattern.foundAt? r.text start with
  | some f =>
    let tag := Text.lower (.ofList (f.group 1))
    if r.verbatim.any (· != tag) then
      text (r.slice start (angle + 1))
      return some (angle + 1)
    endTag tag
    modify fun r => { r with verbatim := none }
    return some (angle + 1)
  | none =>
    if r.verbatim.isSome then
      text (r.slice start (angle + 1))
      return some (angle + 1)
    match tagNamePattern.foundAt? r.text (start + 2) with
    | none =>
      if r.holdsAt "</>" start then return some (start + 3)
      readBogus start
    | some f =>
      endTag (Text.lower (.ofList (f.group 1)))
      return some (((r.indexFrom? '>' f.stop).map (· + 1)).getD 0)

/-- A comment at a position; nothing if it has no end. -/
def readComment (start : Nat) : MarkupM (Option Nat) := do
  let r ← get
  let found := (commentEndPattern.find? r.text (start + 4)).or
    (emptyCommentPattern.foundAt? r.text (start + 4))
  match found with
  | none => return none
  | some f =>
    comment (r.slice (start + 4) f.start)
    return some f.stop

/-- Whether a declaration may stand where the reader is. -/
def mayDeclare : MarkupM Bool := do
  let starts ← atLineStart
  return starts || (← get).afterBlock

/-- An instruction at a position; nothing if it has no end. -/
def readInstruction (start : Nat) : MarkupM (Option Nat) := do
  if !(← mayDeclare) then
    text "<?".toList
    return some (start + 2)
  let r ← get
  match (Pattern.ofText "\\?>").find? r.text (start + 2) with
  | none => return none
  | some f =>
    whole ("<?".toList ++ r.slice (start + 2) f.start ++ "?>".toList) true
    return some f.stop

/-- A declaration or a section at a position; nothing if it has no end. -/
def readDeclaration (start : Nat) : MarkupM (Option Nat) := do
  if !(← mayDeclare) then
    text "<!".toList
    return some (start + 2)
  let r ← get
  if r.holdsAt "<![" start then
    if r.holdsAt "<![CDATA[" start then
      match sectionEndPattern.find? r.text (start + 3) with
      | none => return none
      | some f =>
        whole ("<![".toList ++ r.slice (start + 3) f.start ++ "]]>".toList) true
        return some f.stop
    match ← readBogus start with
    | some stop => return some stop
    | none =>
      text (r.slice start (start + 1))
      return some (start + 1)
  if Text.lower (.ofList (r.slice start (start + 9))) == "<!doctype" then
    match r.indexFrom? '>' (start + 9) with
    | none => return none
    | some stop =>
      whole ("<!".toList ++ r.slice (start + 2) stop ++ ['>']) true
      return some (stop + 1)
  readBogus start

/-- What begins with an opening angle at a position; nothing if it has no end. A sign that
begins nothing is text, unless it is the last of all. -/
def readAngle (start : Nat) : MarkupM (Option (Option Nat)) := do
  let r ← get
  let next := r.text.getD (start + 1) ' '
  if next.isAlpha || r.holdsAt "</>" start then return some (some (← readStartTag start))
  if next == '/' then return some (← readEndTag start)
  if r.holdsAt "<!--" start then return some (← readComment start)
  if next == '?' then return some (← readInstruction start)
  if next == '!' then return some (← readDeclaration start)
  if start + 1 < r.text.size then
    text ['<']
    return some (some (start + 1))
  return none

/-- Where the reader stops next, from a position on. -/
def nextSign? (start : Nat) : MarkupM (Option Nat) := do
  let r ← get
  match r.verbatim with
  | some tag => return ((verbatimEndPattern tag).find? r.text start).map Pattern.Found.start
  | none =>
    return some (((markupSignPattern.find? r.text start).map Pattern.Found.start).getD r.text.size)

/-- Goes through the text from a position on; `last` tells that this is the second pass.
Gives the position where the pass ends. -/
def pass (last : Bool) : Nat → Nat → MarkupM Nat
  | 0, position => return position
  | fuel + 1, position => do
    let size := (← get).text.size
    if size ≤ position then return position
    let some sign ← nextSign? position | return position
    if position < sign then text ((← get).slice position sign)
    let position ← moveTo position sign
    let r ← get
    if position == size then return position
    if r.text[position]? == some '<' then
      match ← readAngle position with
      | none => return position
      | some (some stop) => pass last fuel (← moveTo position stop)
      | some none =>
        if !last then return position
        let stop := match r.indexFrom? '>' (position + 1) with
          | some stop => stop + 1
          | none => (r.indexFrom? '<' (position + 1)).getD (position + 1)
        text (r.slice position stop)
        pass last fuel (← moveTo position stop)
    else if r.holdsAt "&#" position then
      match codeReferencePattern.foundAt? r.text position with
      | some f =>
        whole ("&#".toList ++ r.slice (position + 2) (f.stop - 1) ++ [';']) false
        let stop := if r.holdsAt ";" (f.stop - 1) then f.stop else f.stop - 1
        pass last fuel (← moveTo position stop)
      | none =>
        if (r.indexFrom? ';' position).isSome then
          text (r.slice position (position + 2))
          moveTo position (position + 2)
        else return position
    else
      match nameReferencePattern.foundAt? r.text position with
      | some f =>
        whole ('&' :: f.group 1 ++ [';']) false
        pass last fuel (← moveTo position f.stop)
      | none =>
        if position + 1 < size then
          text ['&']
          pass last fuel (← moveTo position (position + 1))
        else return position

def dropTo (position : Nat) : MarkupM Unit :=
  modify fun r => { r with text := r.text.extract position r.text.size }

/-- Goes through the whole text. -/
def readAll : MarkupM Unit := do
  let fuel := 4 * (← get).text.size + 100
  dropTo (← pass false fuel 0)
  let stop ← pass true fuel 0
  let r ← get
  if stop < r.text.size && r.verbatim.isNone then
    text (r.slice stop r.text.size)
    dropTo (← moveTo stop r.text.size)
  else dropTo stop
  let r ← get
  if !r.text.isEmpty then text r.text.toList
  let r ← get
  if !r.block.isEmpty then
    let (aside, kept) := r.kept.put r.block
    set { r with kept, block := [] }
    put aside

end MarkupM

def setMarkupAside (kept : Kept) (cs : List Char) : List Char × Kept :=
  let r := (MarkupM.readAll.run { text := cs.toArray, kept }).2
  (r.pieces.reverse.flatten, r.kept)

@[simp] theorem MarkupReader.slice_self (r : MarkupReader) (position : Nat) :
    r.slice position position = [] := by
  simp [slice]

end DocSite.Markdown

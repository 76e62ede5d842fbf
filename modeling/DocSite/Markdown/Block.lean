import DocSite.Markdown.Page
import DocSite.Markdown.Source
import DocSite.Markdown.Table

/-! Blocks. A text is cut into blocks at its empty lines, and the first rule that holds for a
block turns it into elements. A rule may read a part of the block only and leave the rest as
a block to be read next, and it may read parts of the block below an element of its own. -/

namespace DocSite.Markdown

abbrev Blocks := List (List Char)

/-- Where blocks stand: in a page or a quotation, in an item right after the one before it,
in an item after an empty line, or in indented text that has lost its indent. -/
inductive Setting
  | open
  | item
  | looseItem
  | indented
deriving DecidableEq, Repr

/-- A way to read the blocks of a setting below an element. -/
abbrev Reading := Setting → Nat → Blocks → PageM Unit

/-- A block to be read: how its parts are read, where it stands, the element that it is put
in, its text, and the blocks after it. -/
structure Task where
  read : Reading
  setting : Setting
  parent : Nat
  text : List Char
  rest : Blocks

/-- A rule for blocks: gives the blocks that are left to be read, or nothing if it does not
hold for the block. -/
abbrev Rule := Task → PageM (Option Blocks)

/-! ### Indents -/

def indent (level : Nat) : List Char := List.replicate (tabWidth * level) ' '

def isIndented (cs : List Char) : Bool := (indent 1).isPrefixOf cs

/-- A text without an indent before its lines, where they have it. -/
def unindent (level : Nat) (cs : List Char) : List Char :=
  joinLines ((linesOf cs).map fun line =>
    if (indent level).isPrefixOf line then line.drop (tabWidth * level) else line)

def isBlankText (cs : List Char) : Bool := cs.all Text.isBlank

/-- The first lines of a text that are indented or blank, without their indent, and the
rest of the text. -/
def indentedPart (cs : List Char) : List Char × List Char :=
  let lines := linesOf cs
  let first := lines.takeWhile fun line => isIndented line || isBlankText line
  (joinLines (first.map fun line => if isIndented line then line.drop tabWidth else []),
    joinLines (lines.drop first.length))

def indentLevel (cs : List Char) : Nat := (cs.takeWhile (· == ' ')).length / tabWidth

def isListTag (tag : String) : Bool := tag == "ul" || tag == "ol"

/-- The element that a block of an indent belongs to, from an element and a level on: the
last item or list below it, as deep as the indent goes. -/
def indentedParent (depth : Nat) : Nat → Nat → Nat → PageM (Nat × Nat)
  | 0, level, i => return (level, i)
  | fuel + 1, level, i => do
    if depth ≤ level then return (level, i)
    let some child ← PageM.lastChild? i | return (level, i)
    let tag ← PageM.tagOf child
    if isListTag tag then indentedParent depth fuel (level + 1) child
    else if tag == "li" then indentedParent depth fuel level child
    else return (level, i)

/-- Makes a paragraph of the text of an item. -/
def wrapText (item : Nat) : PageM Unit := do
  let e ← PageM.element item
  unless e.text.isEmpty do
    PageM.change item fun e => { e with text := .none }
    discard <| PageM.addFirst item { Element.ofTag "p" with text := e.text }

def Task.readChunks (t : Task) (setting : Setting) (parent : Nat) (cs : List Char) : PageM Unit :=
  t.read setting parent (chunksOf cs)

/-- An indented block in an item, or after a list. -/
def readIndented : Rule := fun t => do
  let parent ← PageM.element t.parent
  let last ← PageM.lastChild? t.parent
  let lastTag ← match last with
    | some child => PageM.tagOf child
    | none => pure ""
  let inItem := parent.tag == "li"
  if !(isIndented t.text && t.setting != .indented && (inItem || isListTag lastTag)) then
    return none
  let (level, owner) ← indentedParent (indentLevel t.text) (← get).elements.size
    (if t.setting == .item then 1 else 0) t.parent
  let cs := unindent level t.text
  if inItem then
    t.read .indented (if isListTag lastTag then last.getD t.parent else t.parent) [cs]
  else if (← PageM.tagOf owner) == "li" then t.read .indented owner [cs]
  else
    let item? ← match ← PageM.lastChild? owner with
      | some child => pure (if (← PageM.tagOf child) == "li" then some child else none)
      | none => pure none
    match item? with
    | some item =>
      wrapText item
      t.readChunks .indented item cs
    | none => t.read .indented (← PageM.addLast owner (.ofTag "li")) [cs]
  return some t.rest

/-! ### Code -/

def lastCode? (parent : Nat) : PageM (Option Nat) := do
  let some child ← PageM.lastChild? parent | return none
  let e ← PageM.element child
  let some first := e.children.head? | return none
  return if e.tag == "pre" && (← PageM.tagOf first) == "code" then some first else none

def extendCode (code : Nat) (cs : List Char) : PageM Unit :=
  PageM.change code fun e => { e with text := .done (e.text.chars ++ cs) }

/-- An empty line, which belongs to the code before it. -/
def readEmpty : Rule := fun t => do
  let code? ← lastCode? t.parent
  match t.text with
  | [] =>
    if let some code := code? then extendCode code ['\n', '\n']
    return some t.rest
  | '\n' :: more =>
    if let some code := code? then extendCode code ['\n']
    return some (if more.isEmpty then t.rest else more :: t.rest)
  | _ => return none

/-- Indented code. It goes on in the next indented block. -/
def readCode : Rule := fun t => do
  if !isIndented t.text then return none
  let (first, rest) := indentedPart t.text
  let code := escapeCode (Text.trimEnd first) ++ ['\n']
  match ← lastCode? t.parent with
  | some i => extendCode i ('\n' :: code)
  | none =>
    let block ← PageM.addLast t.parent (.ofTag "pre")
    discard <| PageM.addLast block { Element.ofTag "code" with text := .done code }
  return some (if rest.isEmpty then t.rest else rest :: t.rest)

/-! ### Tables -/

def addRow (parent : Nat) (tag : String) (cells : List (List Char × Alignment)) : PageM Unit := do
  let row ← PageM.addLast parent (.ofTag "tr")
  for (text, alignment) in cells do
    let style := alignment.style?.toList.map fun style => ("style", style.toList)
    discard <| PageM.addLast row ⟨tag, style, .plain text, [], .none⟩

/-- A table. One without rows has an empty row. -/
def readTable : Rule := fun t => do
  let some table := Table.ofText? t.text | return none
  let i ← PageM.addLast t.parent (.ofTag "table")
  addRow (← PageM.addLast i (.ofTag "thead")) "th" (table.header.zip table.columns)
  let body ← PageM.addLast i (.ofTag "tbody")
  if table.rows.isEmpty then addRow body "td" (table.columns.map fun _ => ([], .unset))
  for row in table.rows do
    addRow body "td" (row.zip table.columns)
  return some t.rest

/-! ### Headings and rules -/

/-- A heading after signs that tell its level: 1 are the signs and 2 is the heading. -/
def headingPattern : Pattern := .ofText <|
  "(?:^|\\n)(?P<level>#\x7b1,6\x7d)(?P<header>(?:\\\\.|[^\\\\])*?)#*(?:\\n|$)"

def addHeading (parent level : Nat) (cs : List Char) : PageM Unit :=
  discard <| PageM.addLast parent
    { Element.ofTag ("h" ++ Nat.repr level) with text := .plain (Text.trimBoth cs) }

/-- A heading with signs before it, after other lines perhaps. -/
def readHeading : Rule := fun t => do
  let some f := headingPattern.find? t.text.toArray 0 | return none
  unless f.before.isEmpty do t.read t.setting t.parent [f.before]
  addHeading t.parent (f.group 1).length (f.group 2)
  let after := if t.setting == .looseItem then unindent 1 f.after else f.after
  return some (if after.isEmpty then t.rest else after :: t.rest)

/-- A line with a line of signs below it. -/
def underlinedPattern : Pattern := .ofText "(?m)^.*?\\n[=-]+[ ]*(\\n|$)"

/-- A heading with a line of signs below it. -/
def readUnderlined : Rule := fun t => do
  if !underlinedPattern.begins t.text then return none
  match linesOf t.text with
  | heading :: signs :: lines =>
    addHeading t.parent (if signs.head? == some '=' then 1 else 2) heading
    return some (if lines.isEmpty then t.rest else joinLines lines :: t.rest)
  | _ => return some t.rest

/-- A line of three or more equal signs. -/
def rulePattern : Pattern := .ofText <|
  "(?m)^[ ]\x7b0,3\x7d(?=(?P<signs>(-+[ ]\x7b0,2\x7d)\x7b3,\x7d|(_+[ ]\x7b0,2\x7d)\x7b3,\x7d|" ++
  "(\\*+[ ]\x7b0,2\x7d)\x7b3,\x7d))(?P=signs)[ ]*$"

def isLineFeed (c : Char) : Bool := c == '\n'

def trimFeedsStart (cs : List Char) : List Char := cs.dropWhile isLineFeed

def trimFeedsEnd (cs : List Char) : List Char := (cs.reverse.dropWhile isLineFeed).reverse

/-- A rule between other lines. -/
def readRule : Rule := fun t => do
  let some f := rulePattern.find? t.text.toArray 0 | return none
  let before := trimFeedsEnd f.before
  unless before.isEmpty do t.read t.setting t.parent [before]
  discard <| PageM.addLast t.parent (.ofTag "hr")
  let after := trimFeedsStart f.after
  return some (if after.isEmpty then t.rest else after :: t.rest)

/-! ### Lists -/

/-- The first line of a list with numbers. -/
def numberedPattern : Pattern := .ofText "^[ ]\x7b0,3\x7d\\d+\\.[ ]+(.*)"

/-- The first line of a list with signs. -/
def bulletPattern : Pattern := .ofText "^[ ]\x7b0,3\x7d[*+-][ ]+(.*)"

/-- A line that begins an item: 3 is what comes after its sign. -/
def itemPattern : Pattern := .ofText "^[ ]\x7b0,3\x7d((\\d+\\.)|[*+-])[ ]+(.*)"

/-- An indented line that begins an item. -/
def innerItemPattern : Pattern := .ofText "^[ ]\x7b4,7\x7d((\\d+\\.)|[*+-])[ ]+.*"

def addToLast (items : List (List Char)) (line : List Char) : List (List Char) :=
  items.dropLast ++ [items.getLastD [] ++ '\n' :: line]

/-- The items of lines. The indented items after an item are one more item. -/
def itemsOf (lines : List (List Char)) : List (List Char) :=
  lines.foldl (fun items line =>
    match itemPattern.foundAt? line.toArray 0 with
    | some f => items ++ [f.group 3]
    | none =>
      if innerItemPattern.begins line && !isIndented (items.getLastD []) then items ++ [line]
      else addToLast items line) []

/-- Makes paragraphs of the texts of the last item of a list. -/
def loosen (list : Nat) : PageM Unit := do
  let some item ← PageM.lastChild? list | return
  wrapText item
  let some child ← PageM.lastChild? item | return
  let tail := (← PageM.element child).tail
  unless tail.isEmpty do
    PageM.change child fun e => { e with tail := .none }
    discard <| PageM.addLast item
      { Element.ofTag "p" with text := .plain (Text.trimStart tail.chars) }

def Task.readItems (t : Task) (list : Nat) (items : List (List Char)) : PageM Unit := do
  for item in items do
    let parent ←
      if isIndented item then pure ((← PageM.lastChild? list).getD list)
      else PageM.addLast list (.ofTag "li")
    t.read .item parent [item]

/-- A list, whose first line has a pattern. It goes on with a list before it. -/
def readList (pattern : Pattern) (tag : String) : Rule := fun t => do
  if !pattern.begins t.text then return none
  let items := itemsOf (linesOf t.text)
  let list? ← match ← PageM.lastChild? t.parent with
    | some child => pure (if isListTag (← PageM.tagOf child) then some child else none)
    | none => pure none
  match list?, items with
  | some list, first :: others =>
    loosen list
    t.read .looseItem (← PageM.addLast list (.ofTag "li")) [first]
    t.readItems list others
  | _, _ =>
    let list ←
      if isListTag (← PageM.tagOf t.parent) then pure t.parent
      else PageM.addLast t.parent (.ofTag tag)
    t.readItems list items
  return some t.rest

/-! ### Quotations -/

/-- A line of a quotation: 2 is what comes after its sign. -/
def quotedPattern : Pattern := .ofText "(^|\\n)[ ]\x7b0,3\x7d>[ ]?(.*)"

/-- A line without the sign of a quotation, if it has it. -/
def unquoteLine (line : List Char) : List Char :=
  if Text.trimBoth line == ['>'] then []
  else match quotedPattern.foundAt? line.toArray 0 with
    | some f => f.group 2
    | none => line

/-- A quotation, after other lines perhaps. It goes on with a quotation before it. -/
def readQuotation : Rule := fun t => do
  let some f := quotedPattern.find? t.text.toArray 0 | return none
  t.read t.setting t.parent [f.before]
  let lines := linesOf (f.whole ++ f.after)
  let last? ← match ← PageM.lastChild? t.parent with
    | some child => pure (if (← PageM.tagOf child) == "blockquote" then some child else none)
    | none => pure none
  let quotation ← match last? with
    | some child => pure child
    | none => PageM.addLast t.parent (.ofTag "blockquote")
  t.readChunks .open quotation (joinLines (lines.map unquoteLine))
  return some t.rest

/-! ### References and paragraphs -/

/-- The target of a reference: 1 is its name, 2 the address, and 5 or 6 the title. -/
def targetPattern : Pattern := .ofText <|
  "(?m)^[ ]\x7b0,3\x7d\\[([^\\[\\]]*)\\]:[ ]*\\n?[ ]*([^\\s]+)[ ]*(?:\\n[ ]*)?" ++
  "(([\"'])(.*)\\4[ ]*|\\((.*)\\)[ ]*)?$"

/-- The target of a reference, between other lines. -/
def readTarget : Rule := fun t => do
  let some f := targetPattern.find? t.text.toArray 0 | return none
  let address := (((f.group 2).dropWhile (· == '<')).reverse.dropWhile (· == '>')).reverse
  let title := if (f.group 5).isEmpty then f.group 6 else f.group 5
  PageM.define (referenceName (Text.trimBoth (f.group 1))) ⟨address, title⟩
  let rest := if isBlankText f.after then t.rest else trimFeedsStart f.after :: t.rest
  return some (if isBlankText f.before then rest else trimFeedsEnd f.before :: rest)

/-- A paragraph. In an item right after another one it is bare text. -/
def readParagraph : Rule := fun t => do
  if isBlankText t.text then return some t.rest
  let cs := Text.trimStart t.text
  if t.setting != .item then
    discard <| PageM.addLast t.parent { Element.ofTag "p" with text := .plain cs }
  else match ← PageM.lastChild? t.parent with
    | some child =>
      PageM.change child fun e => { e with tail := .plain (e.tail.chars ++ '\n' :: t.text) }
    | none =>
      PageM.change t.parent fun e =>
        { e with text := .plain (if e.text.isEmpty then cs else e.text.chars ++ '\n' :: cs) }
  return some t.rest

/-! ### All blocks -/

/-- The rules, in the order in which they are tried. -/
def rules : List Rule :=
  [readEmpty, readIndented, readCode, readTable, readHeading, readUnderlined, readRule,
   readList numberedPattern "ol", readList bulletPattern "ul", readQuotation, readTarget,
   readParagraph]

/-- Reads a block by the first rule that holds for it. -/
def readByRules (t : Task) : List Rule → PageM Blocks
  | [] => return t.rest
  | rule :: others => do
    match ← rule t with
    | some blocks => return blocks
    | none => readByRules t others

def readBlocks : Nat → Reading
  | 0, _, _, _ => return
  | _ + 1, _, _, [] => return
  | fuel + 1, setting, parent, text :: rest => do
    let blocks ← readByRules ⟨readBlocks fuel, setting, parent, text, rest⟩ rules
    readBlocks fuel setting parent blocks

/-- Reads the blocks of a whole text below the root of a page. -/
def readText (cs : List Char) : PageM Unit :=
  readBlocks (4 * cs.length + 100) .open Page.root (chunksOf cs)

@[simp] theorem readBlocks_nil (fuel : Nat) (setting : Setting) (parent : Nat) :
    readBlocks fuel setting parent [] = pure () := by
  cases fuel <;> rfl

end DocSite.Markdown

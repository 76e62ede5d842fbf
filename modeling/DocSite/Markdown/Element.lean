import DocSite.SourcePath
import DocSite.Text.Case
import DocSite.Text.Blank

/-! The elements that a page in Markdown is made of. They are kept in one list and name each
other by their place in it, so that text can be moved between them while the page is
put together. What is set aside is held in a text by a mark: a sign that no source has,
a word, a number and another such sign. -/

namespace DocSite.Markdown

/-- The text of an element. A finished one is not looked through for markup. -/
structure Words where
  chars : List Char
  finished : Bool
deriving DecidableEq, Repr, Inhabited

namespace Words

def none : Words := ⟨[], false⟩

/-- Text that may hold markup. -/
def plain (cs : List Char) : Words := ⟨cs, false⟩

/-- Text that holds no markup. -/
def done (cs : List Char) : Words := ⟨cs, true⟩

def isEmpty (w : Words) : Bool := w.chars.isEmpty

def isBlank (w : Words) : Bool := w.chars.all Text.isBlank

/-- A text with more after it. What is joined counts as unfinished. -/
def append (w more : Words) : Words := if w.isEmpty then more else ⟨w.chars ++ more.chars, false⟩

@[simp] theorem append_none (w : Words) : none.append w = w := rfl

end Words

/-- An element: its tag and attributes, the text before its children, the children, and the
text after the element itself. -/
structure Element where
  tag : String
  attributes : List (String × List Char)
  text : Words
  children : List Nat
  tail : Words
deriving DecidableEq, Repr, Inhabited

/-- An element of a tag with nothing in it. -/
def Element.ofTag (tag : String) : Element := ⟨tag, [], .none, [], .none⟩

abbrev Elements := Array Element

namespace Elements

variable (es : Elements)

def at? (i : Nat) : Option Element := es[i]?

def element (i : Nat) : Element := es.getD i default

def tagOf (i : Nat) : String := (es.element i).tag

def childrenOf (i : Nat) : List Nat := (es.element i).children

def lastChild? (i : Nat) : Option Nat := (es.childrenOf i).getLast?

def change (i : Nat) (f : Element → Element) : Elements := es.modify i f

/-- The list with an element after the others, and its place. -/
def add (e : Element) : Nat × Elements := (es.size, es.push e)

@[simp] theorem size_change (i : Nat) (f : Element → Element) : (es.change i f).size = es.size := by
  simp [change]

@[simp] theorem size_add (e : Element) : (es.add e).2.size = es.size + 1 := by
  simp [add]

end Elements

/-- The tags of elements that stand on lines of their own. -/
def blockTags : List String :=
  ["address", "article", "aside", "blockquote", "details", "div", "dl", "fieldset", "figcaption",
   "figure", "footer", "form", "h1", "h2", "h3", "h4", "h5", "h6", "header", "hgroup", "hr",
   "main", "menu", "nav", "ol", "p", "pre", "section", "table", "ul", "canvas", "colgroup", "dd",
   "body", "dt", "group", "html", "iframe", "li", "legend", "math", "map", "noscript", "output",
   "object", "option", "progress", "script", "style", "summary", "tbody", "td", "textarea",
   "tfoot", "th", "thead", "tr", "video", "center"]

def isBlockTag (tag : String) : Bool := blockTags.contains tag

/-- Whether the name of a tag as it is written, perhaps with slashes after it, is that of an
element on lines of its own. -/
def isBlockName (name : List Char) : Bool :=
  isBlockTag (Text.lower (.ofList (name.reverse.dropWhile (· == '/')).reverse))

/-! ### Marks -/

/-- The signs around a mark. -/
def openSign : Char := '\x02'

def closeSign : Char := '\x03'

def mark (word : String) (number : List Char) : List Char :=
  openSign :: word.toList ++ number ++ [closeSign]

/-- The word of marks for markup that is set aside as it is written. -/
def rawWord : String := "wzxhzdk:"

/-- The word of marks for parts of a line that are set aside. -/
def spanWord : String := "klzzwxh:"

/-- The mark of an ampersand that is part of markup. -/
def ampersandMark : List Char := mark "amp" []

/-- A number in decimal digits. -/
def digitsOf (n : Nat) : List Char := (Nat.repr n).toList

/-- The mark of a character by its code, which keeps the character out of markup. -/
def charMark (c : Char) : List Char := mark "" (digitsOf c.toNat)

/-- Markup that is set aside as it is written. -/
abbrev Kept := Array (List Char)

/-- Sets markup aside, and gives its mark. -/
def Kept.put (k : Kept) (markup : List Char) : List Char × Kept :=
  (mark rawWord (digitsOf k.size), k.push markup)

/-! ### Lines -/

/-- The parts of a text between single line feeds. -/
def linesOf (cs : List Char) : List (List Char) := SourcePath.splitAt '\n' cs

/-- Lines with a line feed between each two of them. -/
def joinLines (lines : List (List Char)) : List Char := ['\n'].intercalate lines

/-- The parts of a text between pairs of line feeds. -/
def chunksOf : List Char → List (List Char)
  | [] => [[]]
  | '\n' :: '\n' :: cs => [] :: chunksOf cs
  | c :: cs =>
    match chunksOf cs with
    | [] => [[c]]
    | chunk :: chunks => (c :: chunk) :: chunks

/-- A text with the signs of markup in it written as references. -/
def escapeCode (cs : List Char) : List Char :=
  cs.flatMap fun c =>
    if c == '&' then "&amp;".toList
    else if c == '<' then "&lt;".toList
    else if c == '>' then "&gt;".toList
    else [c]

@[simp] theorem linesOf_nil : linesOf [] = [[]] := rfl

@[simp] theorem escapeCode_append (cs ds : List Char) :
    escapeCode (cs ++ ds) = escapeCode cs ++ escapeCode ds := by
  simp [escapeCode]

end DocSite.Markdown

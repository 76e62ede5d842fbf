import DocSite.Markdown.Element
import DocSite.Pattern.Found

/-! Elements as markup. Ampersands that begin no reference are escaped, and so are angles.
Before that, blocks are put on lines of their own. -/

namespace DocSite.Markdown

/-- An ampersand that begins no reference. -/
def bareAmpersand : Pattern := .ofText "(?i)&(?!(?:#[0-9]+|#x[0-9a-f]+|[0-9a-z]+);)"

/-- A text as it stands between tags. -/
def escapeText (cs : List Char) : List Char :=
  (bareAmpersand.replaceAll (fun _ => "&amp;".toList) cs).flatMap fun c =>
    if c == '<' then "&lt;".toList else if c == '>' then "&gt;".toList else [c]

/-- A text as it stands in the quotes of an attribute. -/
def escapeValue (cs : List Char) : List Char :=
  (escapeText cs).flatMap fun c => if c == '"' then "&quot;".toList else [c]

/-- The tags of elements that hold nothing. -/
def voidTags : List String :=
  ["area", "base", "basefont", "br", "col", "embed", "frame", "hr", "img", "input", "isindex",
   "link", "meta", "param", "source", "track", "wbr"]

/-- Attributes in the order of their names. -/
def attributesMarkup (attributes : List (String × List Char)) : List Char :=
  (attributes.mergeSort fun a b => a.1 ≤ b.1).flatMap fun (name, value) =>
    ' ' :: name.toList ++ "=\"".toList ++ escapeValue value ++ ['"']

namespace Elements

/-- An element as markup, with the text after it. No element is deeper than the fuel. -/
def markup (es : Elements) : Nat → Nat → List Char
  | 0, _ => []
  | fuel + 1, i =>
    let e := es.element i
    let tag := e.tag.toList
    let opening := '<' :: tag ++ attributesMarkup e.attributes
    let body := if voidTags.contains e.tag then " />".toList
      else '>' :: escapeText e.text.chars ++ e.children.flatMap (markup es fuel) ++
        "</".toList ++ tag ++ ['>']
    opening ++ body ++ escapeText e.tail.chars

def innerMarkup (es : Elements) (i : Nat) : List Char :=
  escapeText (es.element i).text.chars ++ (es.childrenOf i).flatMap (es.markup es.size)

/-- All text in an element, without the text after it. -/
def innerText (es : Elements) : Nat → Nat → List Char
  | 0, _ => []
  | fuel + 1, i =>
    (es.element i).text.chars ++ (es.childrenOf i).flatMap fun child =>
      innerText es fuel child ++ (es.element child).tail.chars

/-- The places of an element and of all below it, each before those below it. -/
def below (es : Elements) : Nat → Nat → List Nat
  | 0, _ => []
  | fuel + 1, i => i :: (es.childrenOf i).flatMap (below es fuel)

/-- Puts an element and the blocks in it on lines of their own. -/
def layOut : Nat → Nat → Elements → Elements
  | 0, _, es => es
  | fuel + 1, i, es =>
    let e := es.element i
    let isCode := e.tag == "code" || e.tag == "pre"
    let blocks := e.children.filter fun child => isBlockTag (es.tagOf child)
    let es :=
      if isBlockTag e.tag && !isCode then
        let leads := e.text.isBlank && e.children.head?.any fun child => isBlockTag (es.tagOf child)
        let es := if leads then es.change i fun e => { e with text := .plain ['\n'] } else es
        blocks.foldl (fun es child => layOut fuel child es) es
      else es
    es.change i fun e => if e.tail.isBlank then { e with tail := .plain ['\n'] } else e

/-- Puts a line feed after each break of a line. -/
def layOutBreak (e : Element) : Element :=
  if e.tag != "br" then e
  else { e with tail := .plain (if e.tail.isBlank then ['\n'] else '\n' :: e.tail.chars) }

/-- Ends the code of a block with one line feed. -/
def layOutCode (es : Elements) (i : Nat) : Elements :=
  match es.tagOf i == "pre", es.childrenOf i with
  | true, code :: _ =>
    let e := es.element code
    if e.tag == "code" && e.children.isEmpty then
      es.change code fun e => { e with text := .done (Text.trimEnd e.text.chars ++ ['\n']) }
    else es
  | _, _ => es

end Elements

def charMarkPattern : Pattern := .ofText "\\x02(\\d+)\\x03"

/-- A text with the characters back that were kept out of markup. -/
def restoreChars (cs : List Char) : List Char :=
  charMarkPattern.replaceAll
    (fun f => [Char.ofNat (f.group 1 |>.filterMap Text.decimalOf? |>.foldl (10 * · + ·) 0)]) cs

/-- An element with the characters back that were kept out of markup. -/
def Element.restored (e : Element) : Element :=
  { e with
    text := if e.tag == "code" then e.text else { e.text with chars := restoreChars e.text.chars }
    tail := { e.tail with chars := restoreChars e.tail.chars }
    attributes := e.attributes.map fun (name, value) => (name, restoreChars value) }

/-- The elements below one, laid out and with all characters back. -/
def Elements.finished (es : Elements) (root : Nat) : Elements :=
  let es := es.layOut es.size root
  let places := es.below es.size root
  let es := places.foldl (fun es i => es.change i Elements.layOutBreak) es
  let es := places.foldl Elements.layOutCode es
  places.foldl (fun es i => es.change i Element.restored) es

@[simp] theorem attributesMarkup_nil : attributesMarkup [] = [] := by
  simp [attributesMarkup]

end DocSite.Markdown

import DocSite.Markdown.Block
import DocSite.Markdown.Fence
import DocSite.Markdown.Inline
import DocSite.Markdown.RawHtml

/-! Pages in Markdown as markup. Fenced code and blocks of markup are set aside, the rest is
read block by block, and then the lines of each block. At the end the page is laid out,
and what was set aside takes the place of its marks. -/

namespace DocSite.Markdown

/-- The mark of markup that is set aside, alone in a paragraph, where 1 is its number, or
elsewhere, where 2 is its number. -/
def rawMarkPattern : Pattern :=
  .ofText "<p>\\x02wzxhzdk:([0-9]+)\\x03</p>|\\x02wzxhzdk:([0-9]+)\\x03"

/-- The name of the tag that markup begins with. -/
def firstTagPattern : Pattern := .ofText "^\\</?([^ >]+)"

/-- Whether markup stands on lines of its own. -/
def isBlockMarkup (markup : List Char) : Bool :=
  match firstTagPattern.foundAt? markup.toArray 0 with
  | none => false
  | some f => "!?@%".toList.contains ((f.group 1).headD ' ') || isBlockName (f.group 1)

/-- A text with markup in place of its marks, as deep as the fuel goes. A block of markup
takes the place of the paragraph that its mark is in. -/
def putBack (kept : Kept) : Nat → List Char → List Char
  | 0, cs => cs
  | fuel + 1, cs =>
    rawMarkPattern.replaceAll (fun f =>
      let isAlone := (f.group? 1).isSome
      let number := if isAlone then f.group 1 else f.group 2
      match (String.ofList number).toNat?.bind fun n => kept[n]? with
      | none => f.whole
      | some markup =>
        if !isAlone || isBlockMarkup markup then putBack kept fuel markup
        else putBack kept fuel ("<p>".toList ++ markup ++ "</p>".toList)) cs

/-- A text with ampersands in place of their marks. -/
def restoreAmpersands : List Char → List Char
  | [] => []
  | c :: cs =>
    match ampersandMark.tail.isPrefixOf cs && c == openSign with
    | true => '&' :: restoreAmpersands (cs.drop (ampersandMark.length - 1))
    | false => c :: restoreAmpersands cs
termination_by cs => cs.length

/-- A page put together of a text whose markup is set aside. -/
def pageOf (kept : Kept) (cs : List Char) : Page :=
  let page := ((readText cs).run (.start kept)).2
  ((readLines (8 * (cs.length + page.elements.size) + 1000) [Page.root]).run page).2

/-- A page as markup. -/
def render (cs : List Char) : String :=
  if isBlankText cs then ""
  else
    let cs := normalized cs
    let (cs, kept) := setFencesAside #[] (cs.length + 1) 0 cs
    let (cs, kept) := setMarkupAside kept cs
    let page := pageOf kept cs
    let markup := (page.elements.finished Page.root).innerMarkup Page.root
    let markup := putBack page.kept (page.kept.size + 1) (Text.trimBoth markup)
    .ofList (Text.trimBoth (restoreAmpersands markup))

@[simp] theorem render_nil : render [] = "" := rfl

end DocSite.Markdown

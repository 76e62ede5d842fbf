import DocSite.Text.Blank
import DocSite.Text.Case

/-! Examples with captions. A text that opens with a caption element, has a line
break among the blanks after it and goes on after that break is an example with
a caption; any other text is code as a whole. The caption is the shortest one
that leaves such a rest, and the code is what follows the last possible break. -/

namespace DocSite

/-- A piece of example code; without a caption the caption is empty. -/
structure Example where
  caption : String
  code : String
deriving DecidableEq, Repr

namespace Example

def openingTag : List Char := "<caption>".toList

def closingTag : List Char := "</caption>".toList

/-- What follows the last line break among the blanks at the start of a text that
has something after it. -/
def afterBreak? : List Char → Option (List Char)
  | [] => none
  | c :: cs =>
    if Text.isBlank c then
      match afterBreak? cs with
      | some code => some code
      | none => if Text.isLineBreak c && !cs.isEmpty then some cs else none
    else none

/-- The caption and the code of a text whose opening tag is read; `caption` are
the characters so far, in reverse order. -/
def splitCaption (caption : List Char) : List Char → Option (List Char × List Char)
  | [] => none
  | c :: cs =>
    let code? :=
      if caption.isEmpty then none
      else (Text.afterCaseless? closingTag (c :: cs)).bind afterBreak?
    match code? with
    | some code => some (caption.reverse, code)
    | none => splitCaption (c :: caption) cs

def ofText (text : String) : Example :=
  match (Text.afterCaseless? openingTag (Text.trimStart text.toList)).bind (splitCaption []) with
  | some (caption, code) => ⟨.ofList caption, .ofList code⟩
  | none => ⟨"", text⟩

end Example

end DocSite

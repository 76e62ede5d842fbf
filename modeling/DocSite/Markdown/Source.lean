import DocSite.Markdown.Element
import DocSite.Text.Encoding

/-! What is done to the source of a page before it is read: the signs of marks are left out,
line breaks are made alike, tabulators become spaces, and lines of spaces alone become
empty. -/

namespace DocSite.Markdown

def tabWidth : Nat := 4

/-- A text without the signs of marks. -/
def withoutSigns (cs : List Char) : List Char :=
  cs.filter fun c => c != openSign && c != closeSign

/-- A text with spaces up to the next multiple of the width for each tabulator. -/
def expandTabs (column : Nat) : List Char → List Char
  | [] => []
  | '\t' :: cs =>
    let width := tabWidth - column % tabWidth
    List.replicate width ' ' ++ expandTabs (column + width) cs
  | '\n' :: cs => '\n' :: expandTabs 0 cs
  | c :: cs => c :: expandTabs (column + 1) cs

/-- Empties the lines of spaces alone, apart from the first and the last. -/
def emptyBlankLines : List (List Char) → List (List Char)
  | [] => []
  | [line] => [line]
  | line :: lines => (if line.all (· == ' ') then [] else line) :: emptyBlankLines lines

/-- The source of a page, made ready to be read. -/
def normalized (cs : List Char) : List Char :=
  let cs := expandTabs 0 (Text.unifyBreaks false (withoutSigns cs) ++ ['\n', '\n'])
  match linesOf cs with
  | [] => []
  | first :: lines => joinLines (first :: emptyBlankLines lines)

@[simp] theorem expandTabs_nil (column : Nat) : expandTabs column [] = [] := rfl

end DocSite.Markdown

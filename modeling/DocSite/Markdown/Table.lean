import DocSite.Markdown.Element
import DocSite.Pattern.Found

/-! Tables. The first line of a table names its columns, the second separates it from the
rows and tells how each column is aligned, and every other line is a row. Bars stand between
the cells of a line; those that are escaped or in a code span belong to a cell. -/

namespace DocSite.Markdown

inductive Alignment
  | unset
  | left
  | right
  | center
deriving DecidableEq, Repr

def Alignment.style? : Alignment → Option String
  | .unset => none
  | .left => some "text-align: left;"
  | .right => some "text-align: right;"
  | .center => some "text-align: center;"

/-- The alignment of a column by the cell that separates its name from its rows. -/
def Alignment.ofCell (cell : List Char) : Alignment :=
  match cell.head? == some ':', cell.getLast? == some ':' with
  | true, true => .center
  | true, false => .left
  | false, true => .right
  | false, false => .unset

/-- A text without the spaces at both ends. -/
def trimSpaces (cs : List Char) : List Char :=
  ((cs.dropWhile (· == ' ')).reverse.dropWhile (· == ' ')).reverse

/-- A table: the alignment and the name of each column, and the cells of each row. -/
structure Table where
  columns : List Alignment
  header : List (List Char)
  rows : List (List (List Char))
deriving DecidableEq, Repr

namespace Table

/-- What matters between the cells of a line: 1 is a pair of backslashes, 2 are backquotes
after a backslash, 3 are backquotes, 4 is an escaped bar and 5 a bar. -/
def separatorPattern : Pattern := .ofText "(?:(\\\\\\\\)|(\\\\`+)|(`+)|(\\\\\\|)|(\\|))"

/-- A bar at the end of a line, with pairs of backslashes before it. -/
def lastBarPattern : Pattern := .ofText "(?<!\\\\)(?:\\\\\\\\)*\\|$"

/-- A run of backquotes in a line: its first and its last position, how many there are, and
how many of them may open a code span. -/
structure Backquotes where
  start : Nat
  last : Nat
  count : Nat
  opening : Nat
deriving DecidableEq, Repr

/-- The code spans of a line by its runs of backquotes. A run opens a span that the next
run of the same length closes. -/
def codeSpans : List Backquotes → List (Nat × Nat)
  | [] => []
  | run :: rest =>
    let later := rest.dropWhile (·.count != run.opening)
    match later.head? with
    | some closing =>
      if run.opening == 0 then codeSpans rest
      else (run.start, closing.last) :: codeSpans later.tail
    | none => codeSpans rest
termination_by runs => runs.length
decreasing_by
  · simp
  · have hLater := (List.dropWhile_suffix (l := rest) (·.count != run.opening)).length_le
    simp only [List.length_tail, List.length_cons]
    omega
  · simp

def backquotesOf? (f : Pattern.Found) : Option Backquotes :=
  match f.span? 2, f.span? 3 with
  | some (start, stop), _ => some ⟨start, stop - 1, stop - start - 1, stop - start - 2⟩
  | none, some (start, stop) => some ⟨start, stop - 1, stop - start, stop - start⟩
  | none, none => none

/-- A line cut at positions, without the characters there. -/
def cutAt (line : Array Char) (start : Nat) : List Nat → List (List Char)
  | [] => [(line.extract start line.size).toList]
  | position :: rest =>
    (line.extract start position).toList :: cutAt line (position + 1) rest

/-- The cells of a line. Where bars stand around the lines they end no cell. -/
def cellsOf (bordered : Bool) (line : List Char) : List (List Char) :=
  let line :=
    if bordered then
      lastBarPattern.replaceAll (fun _ => []) (if line.head? == some '|' then line.tail else line)
    else line
  let line := line.toArray
  let found := separatorPattern.findAll line
  let spans := codeSpans (found.filterMap backquotesOf?)
  let bars := (found.filterMap fun f => f.span? 5).map Prod.fst
  cutAt line 0 (bars.filter fun bar => !spans.any fun (start, last) => start ≤ bar && bar ≤ last)

def isBordered (line : List Char) : Bool := line.head? == some '|' || lastBarPattern.foundIn line

/-- As many cells as there are columns, without the spaces around them. -/
def fitCells (columns : List Alignment) (cells : List (List Char)) : List (List Char) :=
  (List.range columns.length).map fun i => trimSpaces (cells.getD i [])

/-- The table that a text is, if it is one. A table of one column has bars at the lines'
ends. -/
def ofText? (cs : List Char) : Option Table :=
  match (linesOf cs).map trimSpaces with
  | header :: separator :: rows =>
    let bordered := isBordered header
    let names := cellsOf bordered header
    let cells := cellsOf bordered separator
    if names.length ≤ 1 && !(bordered && (separator :: rows).all isBordered) then none
    else if cells.length != names.length then none
    else if !cells.all fun cell => cell.all "|:- ".toList.contains then none
    else
      let columns := cells.map fun cell => .ofCell (trimSpaces cell)
      some ⟨columns, fitCells columns names,
        rows.map fun row => fitCells columns (cellsOf bordered row)⟩
  | _ => none

@[simp] theorem codeSpans_nil : codeSpans [] = [] := by simp [codeSpans]

@[simp] theorem length_fitCells (columns : List Alignment) (cells : List (List Char)) :
    (fitCells columns cells).length = columns.length := by
  simp [fitCells]

end Table

end DocSite.Markdown

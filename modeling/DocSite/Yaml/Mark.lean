import DocSite.Text.Hex
import DocSite.Yaml.Value

/-! Places in a YAML text and the words for what is wrong there. A place is shown with
a part of its line and a sign below it. What is wrong may come with what was being read
and where that began. -/

namespace DocSite.Yaml

/-- A place in a text: its position, and its line and column from zero on. -/
structure Mark where
  position : Nat
  line : Nat
  column : Nat
deriving DecidableEq, Repr, Inhabited

def isBreak (c : Char) : Bool :=
  c == '\n' || c == '\r' || c == '\x85' || c == '\u2028' || c == '\u2029'

namespace Mark

/-- The most characters to either side of a place that are shown. -/
def shownLimit : Nat := 36

/-- What is shown of the characters to one side of a place, read away from it: the rest of
the line, or if that is too long some of it, and whether it is cut. -/
def side (cs : List Char) : List Char × Bool :=
  let line := cs.takeWhile fun c => !isBreak c
  if shownLimit < line.length then (line.take (shownLimit - 4), true) else (line, false)

/-- The line of a place, and a sign below the place. -/
def snippet (text : List Char) (m : Mark) : String :=
  let (before, headCut) := side (text.take m.position).reverse
  let (after, tailCut) := side (text.drop m.position)
  let ellipsis := " ... ".toList
  let head := if headCut then ellipsis else []
  let tail := if tailCut then ellipsis else []
  .ofList (List.replicate 4 ' ' ++ head ++ before.reverse ++ after ++ tail ++ ['\n'] ++
    List.replicate (4 + before.length + head.length) ' ' ++ ['^'])

def message (text : List Char) (m : Mark) : String :=
  "  in \"<unicode string>\", line " ++ toString (m.line + 1) ++ ", column " ++
    toString (m.column + 1) ++ ":\n" ++ m.snippet text

end Mark

/-- The step of reading that finds a fault: cutting the text, parsing the tokens, composing
the nodes, or constructing the data. -/
inductive Stage
  | scanning
  | parsing
  | composing
  | constructing
deriving DecidableEq, Repr

/-- What is wrong at a place; what was being read, if that is told, and where it began. -/
structure Complaint where
  stage : Stage
  doing : Option String
  since : Option Mark
  problem : String
  place : Mark
deriving DecidableEq, Repr

/-- The wording of a complaint. The beginning is shown only if it is another place. -/
def Complaint.message (text : List Char) (c : Complaint) : String :=
  let since := match c.since with
    | some m =>
      if m.line == c.place.line && m.column == c.place.column then [] else [m.message text]
    | none => []
  "\n".intercalate (c.doing.toList ++ since ++ [c.problem, c.place.message text])

/-- Why a text holds no data: a character that no text may hold, what is wrong at a place,
or a scalar that its tag does not fit. -/
inductive Fault
  | unacceptable (c : Char) (position : Nat)
  | malformed (complaint : Complaint)
  | value (fault : ValueFault)
deriving DecidableEq, Repr

/-- A code in at least four hexadecimal digits. -/
def paddedHex (n : Nat) : String :=
  let digits := Nat.toDigits 16 n
  .ofList (List.replicate (4 - digits.length) '0' ++ digits)

def Fault.message (text : List Char) : Fault → String
  | .unacceptable c position =>
    "unacceptable character #x" ++ paddedHex c.toNat ++
      ": special characters are not allowed\n  in \"<unicode string>\", position " ++
      toString position
  | .malformed complaint => complaint.message text
  | .value fault => fault.message

end DocSite.Yaml

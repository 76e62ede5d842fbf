/-! Paths of source files, as the doclets give them. A backslash separates
directories like a slash. The directories that all paths share are left out
where a path is shown. -/

namespace DocSite.SourcePath

/-- A path with slashes between its directories. -/
def slashed (path : String) : String :=
  .ofList (path.toList.map fun c => if c == '\\' then '/' else c)

/-- The parts of a text between the separators, of which there is at least one. -/
def splitAt (separator : Char) : List Char → List (List Char)
  | [] => [[]]
  | c :: cs =>
    if c == separator then [] :: splitAt separator cs
    else match splitAt separator cs with
      | part :: parts => (c :: part) :: parts
      | [] => [[c]]

def directories (path : String) : List (List Char) :=
  (splitAt '/' (slashed path).toList).dropLast

def commonStart {α : Type} [DecidableEq α] : List α → List α → List α
  | a :: as, b :: bs => if a = b then a :: commonStart as bs else []
  | _, _ => []

def commonDirectories : List String → List (List Char)
  | [] => []
  | path :: paths =>
    paths.foldl (fun common p => commonStart common (directories p)) (directories path)

/-- The directories that all paths share, each with a slash after it. -/
def commonLead (paths : List String) : String :=
  .ofList ((commonDirectories paths).flatMap (· ++ ['/']))

def short (lead path : String) : String := .ofList ((slashed path).toList.drop lead.toList.length)

theorem splitAt_ne_nil (separator : Char) (cs : List Char) : splitAt separator cs ≠ [] := by
  cases cs with
  | nil => simp [splitAt]
  | cons c cs => grind [splitAt]

/-- A character that is no separator belongs to the first part. -/
theorem exists_splitAt_cons {separator c : Char} (h : c ≠ separator) (cs : List Char) :
    ∃ part parts, splitAt separator cs = part :: parts ∧
      splitAt separator (c :: cs) = (c :: part) :: parts := by
  obtain ⟨part, parts, hSplit⟩ :=
    List.exists_cons_of_ne_nil (splitAt_ne_nil separator cs)
  exact ⟨part, parts, hSplit, by simp [splitAt, h, hSplit]⟩

theorem commonStart_isPrefix_left {α : Type} [DecidableEq α] (as bs : List α) :
    commonStart as bs <+: as := by
  induction as generalizing bs with
  | nil => simp [commonStart]
  | cons a as ih =>
    cases bs with
    | nil => simp [commonStart]
    | cons b bs =>
      simp only [commonStart]
      split
      · simpa using ih bs
      · simp

theorem commonStart_isPrefix_right {α : Type} [DecidableEq α] (as bs : List α) :
    commonStart as bs <+: bs := by
  induction as generalizing bs with
  | nil => simp [commonStart]
  | cons a as ih =>
    cases bs with
    | nil => simp [commonStart]
    | cons b bs =>
      simp only [commonStart]
      split
      · next h => subst h; simpa using ih bs
      · simp

end DocSite.SourcePath

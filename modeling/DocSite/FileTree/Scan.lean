import DocSite.FileTree

/-! Finding files. A scan goes through a directory and all directories in it, and
orders what it finds by the text of its path. A path whose text is too long cannot be
looked at, neither to open a directory nor to tell a file from one. -/

namespace DocSite.FileTree

/-- Refuses to look at a path whose text is too long. -/
def checkLength (p : Path) : Except FileError Unit :=
  if pathLimit ≤ p.text.utf8ByteSize then .error (.refused .nameTooLong p.text) else .ok ()

/-- Opens what is found if it is a directory. -/
def enter (found : Path × FileEntry) : Except FileError Unit :=
  match found.2 with
  | .file _ => .ok ()
  | .directory => checkLength found.1

/-- Everything below a directory, with its path, ordered by the text of the path.
What is no directory has nothing below it. All directories are opened before the first
file is looked at. -/
def walkBelow (t : FileTree) (root : Path) : Except FileError (List (Path × FileEntry)) := do
  if !(← t.isDirectory root) then return []
  match t.locate root with
  | .error _ => return []
  | .ok (place, _) =>
    let found := (t.below place).map fun (parts, entry) =>
      ({ root with parts := root.parts ++ parts }, entry)
    let found := found.mergeSort fun a b => a.1.text ≤ b.1.text
    found.forM enter
    return found

/-- How many directories deep a scan goes. -/
def scanDepth : Nat := 10

/-- The files that a path leads to: the file itself, or those below the directory
whose paths have at most `depth` parts from there. -/
def scan (t : FileTree) (root : Path) (depth : Int) : Except FileError (List Path) := do
  if ← t.isFile root then return [root]
  let found ← t.walkBelow root
  found.forM fun e => checkLength e.1
  return found.filterMap fun (p, entry) =>
    match entry with
    | .file _ => if (p.parts.length - root.parts.length : Nat) ≤ depth then some p else none
    | .directory => none

end DocSite.FileTree

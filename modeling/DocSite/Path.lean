import DocSite.SourcePath

/-! Paths of files. A path is relative or begins at the root; its parts are the
names between the slashes. Empty parts and single points say nothing and are
left out, double points are kept, since what they lead to depends on the files. -/

namespace DocSite

/-- Where a path begins. Two slashes at the start are kept apart from one. -/
inductive PathStart
  | here
  | root
  | doubleRoot
deriving DecidableEq, Repr

structure Path where
  start : PathStart
  parts : List String
deriving DecidableEq, Repr

namespace Path

/-- Whether a part of a path says where to go. -/
def isPart (part : List Char) : Bool := part != [] && part != ['.']

def ofString (s : String) : Path where
  start := match s.toList with
    | '/' :: '/' :: '/' :: _ => .root
    | '/' :: '/' :: _ => .doubleRoot
    | '/' :: _ => .root
    | _ => .here
  parts := ((SourcePath.splitAt '/' s.toList).filter isPart).map String.ofList

def text (p : Path) : String :=
  let body := "/".intercalate p.parts
  match p.start with
  | .here => if p.parts.isEmpty then "." else body
  | .root => "/" ++ body
  | .doubleRoot => "//" ++ body

def isAbsolute (p : Path) : Bool := p.start != .here

/-- A path seen from a directory. -/
def join (p q : Path) : Path := if q.isAbsolute then q else { p with parts := p.parts ++ q.parts }

def child (p : Path) (name : String) : Path := { p with parts := p.parts ++ [name] }

def parent (p : Path) : Path := { p with parts := p.parts.dropLast }

def name (p : Path) : String := p.parts.getLast?.getD ""

/-- A name cut before its last point, unless that point begins or ends it. -/
def splitName (name : String) : String × String :=
  let (ending, rest) := name.toList.reverse.span (· != '.')
  match rest with
  | _ :: c :: stem =>
    if ending.isEmpty then (name, "")
    else (.ofList (c :: stem).reverse, .ofList ('.' :: ending.reverse))
  | _ => (name, "")

def suffix (p : Path) : String := (splitName p.name).2

def stem (p : Path) : String := (splitName p.name).1

@[simp] theorem parts_child (p : Path) (name : String) :
    (p.child name).parts = p.parts ++ [name] := rfl

@[simp] theorem parent_child (p : Path) (name : String) : (p.child name).parent = p := by
  simp [child, parent]

end Path

end DocSite

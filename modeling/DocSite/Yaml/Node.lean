import DocSite.Yaml.Mark

/-! The nodes of a YAML document, as they are written: scalars, sequences and mappings, each
with its tag and the place where it begins. A sequence or mapping that is named inside
itself is a knot there, until it is read to its end. -/

namespace DocSite.Yaml

inductive Node
  | scalar (tag : Tag) (text : String) (place : Mark)
  | sequence (tag : Tag) (items : List Node) (place : Mark)
  | mapping (tag : Tag) (entries : List (Node × Node)) (place : Mark)
  | knot (name : String) (tag : Tag) (place : Mark)
deriving Repr, Inhabited

namespace Node

def tag : Node → Tag
  | .scalar tag .. | .sequence tag .. | .mapping tag .. | .knot _ tag _ => tag

def place : Node → Mark
  | .scalar _ _ place | .sequence _ _ place | .mapping _ _ place | .knot _ _ place => place

/-- The word for the kind of a node. -/
def kind : Node → String
  | .scalar .. => "scalar"
  | .sequence .. => "sequence"
  | .mapping .. => "mapping"
  | .knot _ tag _ => if tag == .map || tag == .set then "mapping" else "sequence"

def withTag (tag : Tag) : Node → Node
  | .scalar _ text place => .scalar tag text place
  | .sequence _ items place => .sequence tag items place
  | .mapping _ entries place => .mapping tag entries place
  | .knot name _ place => .knot name tag place

mutual

/-- The node with another one in the place of each knot of a name. -/
def untie (name : String) (whole : Node) : Node → Node
  | .knot other tag place => if other == name then whole else .knot other tag place
  | .sequence tag items place => .sequence tag (untieItems name whole items) place
  | .mapping tag entries place => .mapping tag (untieEntries name whole entries) place
  | n => n

def untieItems (name : String) (whole : Node) : List Node → List Node
  | [] => []
  | item :: items => untie name whole item :: untieItems name whole items

def untieEntries (name : String) (whole : Node) : List (Node × Node) → List (Node × Node)
  | [] => []
  | (key, value) :: entries =>
    (untie name whole key, untie name whole value) :: untieEntries name whole entries

end

/-- A node in place of its own knots, three times over. Readers look into settings no deeper than
that by name. -/
def unrolled (name : String) (n : Node) : Node :=
  let once := n.untie name n
  n.untie name (n.untie name once)

def nothing (place : Mark) : Node := .scalar .null "" place

@[simp] theorem tag_withTag (tag : Tag) (n : Node) : (n.withTag tag).tag = tag := by
  cases n <;> rfl

@[simp] theorem place_withTag (tag : Tag) (n : Node) : (n.withTag tag).place = n.place := by
  cases n <;> rfl

end Node

end DocSite.Yaml

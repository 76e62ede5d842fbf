import DocSite.Yaml.Node

/-! The data that nodes stand for. A mapping may take over entries of others, which its own
entries win over. What is wrong is looked for level by level: the scalars of a level
are read before the collections of it are opened. A knot that is left stands for what
goes on without end. -/

namespace DocSite.Yaml.Node

abbrev Entry := Node × Node

def refuse {α : Type} (doing : Option String) (since : Option Mark) (problem : String)
    (place : Mark) : Except Fault α :=
  .error (.malformed ⟨.constructing, doing, since, problem, place⟩)

def refuseKind {α : Type} (expected : String) (n : Node) : Except Fault α :=
  refuse none none ("expected a " ++ expected ++ " node, but found " ++ n.kind) n.place

mutual

/-- The text of a scalar. A mapping has one, too, if a key of it is tagged as the value. -/
def scalarText : Node → Except Fault String
  | .scalar _ text _ => .ok text
  | .mapping tag entries place => entriesText (.mapping tag [] place) entries
  | n => refuseKind "scalar" n

def entriesText (whole : Node) : List Entry → Except Fault String
  | [] => refuseKind "scalar" whole
  | (key, value) :: rest => if key.tag == .value then value.scalarText else entriesText whole rest

end

mutual

/-- The entries that a mapping at `place` takes over from a node: a mapping or a sequence
of mappings. -/
def taken (place : Mark) : Node → Except Fault (List Entry)
  | .mapping _ entries inner => do
    let (merged, own) ← flattenEntries inner entries
    return merged ++ own
  | .sequence _ items _ => takenItems place items
  | .knot .. => .ok []
  | n =>
    refuse (some "while constructing a mapping") (some place)
      ("expected a mapping or list of mappings for merging, but found " ++ n.kind) n.place

/-- The entries that a mapping at `place` takes over from an item of a sequence. -/
def takenItem (place : Mark) : Node → Except Fault (List Entry)
  | .mapping _ entries inner => do
    let (merged, own) ← flattenEntries inner entries
    return merged ++ own
  | .knot .. => .ok []
  | n =>
    refuse (some "while constructing a mapping") (some place)
      ("expected a mapping for merging, but found " ++ n.kind) n.place

/-- The entries that a mapping at `place` takes over from the items of a sequence, those of
the last item first. -/
def takenItems (place : Mark) : List Node → Except Fault (List Entry)
  | [] => .ok []
  | item :: rest => do
    let these ← takenItem place item
    let later ← takenItems place rest
    return later ++ these

/-- The entries that those of a mapping at `place` take over, and the others. -/
def flattenEntries (place : Mark) : List Entry → Except Fault (List Entry × List Entry)
  | [] => .ok ([], [])
  | (key, value) :: rest =>
    if key.tag == .merge then do
      let these ← taken place value
      let (merged, own) ← flattenEntries place rest
      return (these ++ merged, own)
    else do
      let (merged, own) ← flattenEntries place rest
      let key := if key.tag == .value then key.withTag .str else key
      return (merged, (key, value) :: own)

end

/-- The entries of a mapping at a place, those that it takes over first. -/
def flatten (place : Mark) (entries : List Entry) : Except Fault (List Entry) := do
  let (merged, own) ← flattenEntries place entries
  return merged ++ own

/-- Whether a tag is that of a collection, which is opened only after the level of it. -/
def isOpenedLater : Tag → Bool
  | .seq | .map | .set | .omap | .pairs => true
  | _ => false

/-- The value of a node that is no collection. -/
def atom (n : Node) : Except Fault Datum := do
  match n.tag with
  | .merge | .value | .other _ =>
    refuse none none ("could not determine a constructor for the tag " ++ Text.quoted n.tag.text)
      n.place
  | tag => (scalarValue tag (← n.scalarText)).mapError .value

/-- What is wrong with a node before it is opened. -/
def check (n : Node) : Except Fault Unit :=
  if isOpenedLater n.tag then .ok () else n.atom.map fun _ => ()

/-- Refuses a key that is a collection. -/
def checkKey (mapping : Mark) (key : Node) : Except Fault Unit := do
  key.check
  if isOpenedLater key.tag then
    refuse (some "while constructing a mapping") (some mapping) "found unhashable key" key.place

/-- The one entry of an item in a list of pairs. -/
def pair (doing : String) (list : Mark) (item : Node) : Except Fault Entry :=
  match item with
  | .mapping _ [entry] _ => .ok entry
  | .mapping _ entries place =>
    refuse (some doing) (some list)
      ("expected a single mapping item, but found " ++ toString entries.length ++ " items") place
  | item =>
    refuse (some doing) (some list)
      ("expected a mapping of length 1, but found " ++ item.kind) item.place

/-- The entries of a list of pairs; the scalars in them are checked one by one. -/
def pairs (doing : String) (n : Node) : Except Fault (List Entry) :=
  match n with
  | .sequence _ items place => items.mapM fun item => do
    let entry ← pair doing place item
    entry.1.check
    entry.2.check
    return entry
  | n =>
    refuse (some doing) (some n.place) ("expected a sequence, but found " ++ n.kind) n.place

/-- What is done while a list of pairs is read. -/
def pairsDoing (tag : Tag) : String :=
  "while constructing " ++ (if tag == .omap then "an ordered map" else "pairs")

/-- The entries of a mapping, of which no key is a collection. -/
def mappingEntries (n : Node) : Except Fault (List Entry) := do
  match n with
  | .mapping _ entries place =>
    let entries ← flatten place entries
    entries.forM fun (key, value) => do
      checkKey place key
      value.check
    return entries
  | n => refuseKind "mapping" n

/-- Whether a node is read elsewhere. -/
def isKnot : Node → Bool
  | .knot .. => true
  | _ => false

/-- The nodes right below a collection. -/
def parts (n : Node) : Except Fault (List Node) := do
  if n.isKnot then return []
  match n.tag with
  | .seq => match n with
    | .sequence _ items _ => do
      items.forM check
      return items
    | n => refuseKind "sequence" n
  | .map | .set => return (← n.mappingEntries).flatMap fun (key, value) => [key, value]
  | .omap | .pairs =>
    return (← n.pairs (pairsDoing n.tag)).flatMap fun (key, value) => [key, value]
  | _ => return []

/-- Checks collections that are to be opened, and then those right below them. -/
def checkLevels : Nat → List Node → Except Fault Unit
  | 0, _ => .ok ()
  | _ + 1, [] => .ok ()
  | fuel + 1, level => do
    let parts ← level.mapM parts
    checkLevels fuel (parts.flatten.filter fun n => isOpenedLater n.tag)

/-- The data of a node that is known to have some, down to a depth. -/
def datum : Nat → Node → Except Fault Datum
  | 0, _ => .ok .endless
  | fuel + 1, n => do
    if n.isKnot then return .endless
    match n.tag with
    | .seq => match n with
      | .sequence _ items _ => return .list (← items.mapM (datum fuel))
      | n => refuseKind "sequence" n
    | .map =>
      let entries ← (← n.mappingEntries).mapM fun (key, value) =>
        return (← key.datum fuel, ← value.datum fuel)
      return .dict (entries.foldl (fun read e => Datum.putEntry read e.1 e.2) [])
    | .set =>
      let keys ← (← n.mappingEntries).mapM fun (key, _) => key.datum fuel
      let entries := keys.foldl (fun read key => Datum.putEntry read key .null) []
      return .list (entries.map Prod.fst)
    | .omap | .pairs =>
      let entries ← n.pairs (pairsDoing n.tag)
      return .list (← entries.mapM fun (key, value) =>
        return .list [← key.datum fuel, ← value.datum fuel])
    | _ => n.atom

/-- The data of a document, whose nodes are no deeper than a bound. -/
def construct (depth : Nat) (root : Node) : Except Fault Datum := do
  root.check
  checkLevels depth [root]
  root.datum depth

@[simp] theorem scalarText_scalar (tag : Tag) (text : String) (place : Mark) :
    (scalar tag text place).scalarText = .ok text := by
  simp [scalarText]

end DocSite.Yaml.Node

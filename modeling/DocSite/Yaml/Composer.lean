import DocSite.Yaml.Scanner

/-! Building nodes from the tokens of a YAML text. Every production reads the tokens of its
node and no further than it has to, so that what is wrong is found in the order of
the text. Names of nodes are unique, and stand for the node wherever they come later. -/

namespace DocSite.Yaml.Reader

/-- The tag of a collection that is not told otherwise. -/
def collectionTag (standard : Tag) : Option String → Tag
  | none | some "!" => standard
  | some s => .ofText s

/-- The tag of a scalar. Its form counts if it is plain, or if the tag is an exclamation
mark alone. -/
def scalarTag (text : String) (plain : Bool) : Option String → Tag
  | none => if plain then .ofPlain text else .str
  | some "!" => .ofPlain text
  | some s => .ofText s

/-- The anchor and the tag before a node, in either order. -/
structure Properties where
  anchor : Option String
  tag : Option String
  start : Mark

/-- A tag with its handle replaced by what the handle stands for. -/
def fullTag (start place : Mark) (handle : Option String) (suffix : String) : Reader String := do
  match handle with
  | none => return suffix
  | some handle =>
    match (← get).handles.lookup handle with
    | some lead => return lead ++ suffix
    | none =>
      refuse .parsing (some "while parsing a node") (some start)
        ("found undefined tag handle " ++ Text.quoted handle) place

/-- The anchor before a node, if one is next, with its place. -/
def anchor? : Reader (Option (String × Mark)) := do
  match (← nextToken).kind with
  | .anchor name => return some (name, (← takeToken).start)
  | _ => return none

/-- The tag before a node, if one is next, with its place. -/
def tag? : Reader (Option (Option String × String × Mark)) := do
  match (← nextToken).kind with
  | .tag handle suffix => return some (handle, suffix, (← takeToken).start)
  | _ => return none

/-- The anchor and the tag before a node. -/
def properties : Reader Properties := do
  let first ← anchor?
  let tag ← tag?
  let last ← if first.isNone && tag.isSome then anchor? else pure none
  let starts := [first.map Prod.snd, tag.map fun t => t.2.2].filterMap id
  let start := (starts.head?).getD (← nextToken).start
  let full ← tag.mapM fun (handle, suffix, place) => fullTag start place handle suffix
  return ⟨(first.or last).map Prod.fst, full, start⟩

/-- Refuses an anchor that is already one of another node. -/
def checkAnchor (p : Properties) : Reader Unit := do
  let some name := p.anchor | return
  match (← get).anchors.lookup name with
  | none => return
  | some earlier =>
    refuse .composing (some ("found duplicate anchor " ++ Text.quoted name ++ "; first occurrence"))
      (some earlier.place) "second occurrence" p.start

/-- Keeps what an anchor stands for. -/
def setAnchor (p : Properties) (anchored : Anchored) : Reader Unit :=
  match p.anchor with
  | some name => modify fun r => { r with anchors := (name, anchored) :: r.anchors }
  | none => return

/-- Unties the knots of an anchor, whose node is read, in that node and in others with names. -/
def closeAnchor (p : Properties) (node : Node) : Reader Node := do
  let some name := p.anchor | return node
  let whole := node.unrolled name
  let untied : Anchored → Anchored
    | .done node => .done (node.untie name whole)
    | opened => opened
  modify fun r => { r with
    anchors := (name, .done whole) :: r.anchors.map fun (other, a) => (other, untied a) }
  return whole

/-- The node that an alias stands for, which is a knot in a node that is still open. -/
def aliasNode (name : String) : Reader Node := do
  let place := (← takeToken).start
  match (← get).anchors.lookup name with
  | some (.done node) => return node
  | some (.opened tag start) => return .knot name tag start
  | none => refuse .composing none none ("found undefined alias " ++ Text.quoted name) place

def scalarNode (p : Properties) (text : String) (plain : Bool) : Reader Node := do
  checkAnchor p
  let node := Node.scalar (scalarTag text plain p.tag) text p.start
  setAnchor p (.done node)
  return node

/-- A collection with its properties, whose parts are read by `body`. -/
def collection (p : Properties) (standard : Tag) (make : Tag → Mark → Reader Node) :
    Reader Node := do
  checkAnchor p
  let tag := collectionTag standard p.tag
  setAnchor p (.opened tag p.start)
  closeAnchor p (← make tag p.start)

/-- Refuses the next token, because a collection that began at a place expected another. -/
def refuseToken {α : Type} (doing : String) (since : Mark) (expected : String) : Reader α := do
  let token ← nextToken
  refuse .parsing (some doing) (some since) (expected ++ Text.quoted token.kind.label) token.start

/-- Goes past the comma before a further entry. -/
def comma (doing : String) (since : Mark) (expected : String) : Reader Unit := do
  if (← takeIf .flowEntry).isNone then refuseToken doing since expected

mutual

/-- A node. A block may begin here if `block` holds, and entries of a sequence that are not
indented if `indentless` holds. -/
def node : Nat → Bool → Bool → Reader Node
  | 0, _, _ => return .nothing (← here)
  | fuel + 1, block, indentless => do
    if let .alias name := (← nextToken).kind then return ← aliasNode name
    let p ← properties
    let token ← nextToken
    let sequence (items : Reader (List Node)) : Reader Node :=
      collection p .seq fun tag place => return .sequence tag (← items) place
    let mapping (entries : Reader (List (Node × Node))) : Reader Node :=
      collection p .map fun tag place => return .mapping tag (← entries) place
    match token.kind with
    | .blockEntry =>
      if indentless then return ← sequence (indentlessItems fuel)
    | .scalar text plain =>
      let _ ← takeToken
      return ← scalarNode p text plain
    | .flowSequenceStart =>
      return ← sequence do
        let _ ← takeToken
        flowItems fuel token.start true
    | .flowMappingStart =>
      return ← mapping do
        let _ ← takeToken
        flowEntries fuel token.start true
    | .blockSequenceStart =>
      if block then
        return ← sequence do
          let _ ← takeToken
          blockItems fuel token.start
    | .blockMappingStart =>
      if block then
        return ← mapping do
          let _ ← takeToken
          blockEntries fuel token.start
    | _ => pure ()
    if p.anchor.isSome || p.tag.isSome then return ← scalarNode p "" p.tag.isNone
    refuse .parsing (some ("while parsing a " ++ (if block then "block" else "flow") ++ " node"))
      (some p.start) ("expected the node content, but found " ++ Text.quoted token.kind.label)
      token.start

/-- A node, or nothing at `stop` if one of some tokens is next. -/
def nodeUnless : Nat → Bool → Bool → List TokenKind → Mark → Reader Node
  | 0, _, _, _, stop => return .nothing stop
  | fuel + 1, block, indentless, kinds, stop => do
    if ← nextIs kinds then return .nothing stop else node fuel block indentless

def blockItems : Nat → Mark → Reader (List Node)
  | 0, _ => return []
  | fuel + 1, start => do
    match ← takeIf .blockEntry with
    | some token =>
      let item ← nodeUnless fuel true false [.blockEntry, .blockEnd] token.stop
      return item :: (← blockItems fuel start)
    | none =>
      if (← takeIf .blockEnd).isSome then return []
      refuseToken "while parsing a block collection" start "expected <block end>, but found "

def indentlessItems : Nat → Reader (List Node)
  | 0 => return []
  | fuel + 1 => do
    match ← takeIf .blockEntry with
    | some token =>
      let item ← nodeUnless fuel true false [.blockEntry, .key, .value, .blockEnd] token.stop
      return item :: (← indentlessItems fuel)
    | none => return []

/-- The value of an entry; nothing if no colon is next. -/
def entryValue : Nat → Bool → List TokenKind → Reader Node
  | 0, _, _ => return .nothing (← here)
  | fuel + 1, block, kinds => do
    match ← takeIf .value with
    | some token => nodeUnless fuel block block kinds token.stop
    | none => return .nothing (← nextToken).start

def blockEntries : Nat → Mark → Reader (List (Node × Node))
  | 0, _ => return []
  | fuel + 1, start => do
    match ← takeIf .key with
    | some token =>
      let key ← nodeUnless fuel true true [.key, .value, .blockEnd] token.stop
      let value ← entryValue fuel true [.key, .value, .blockEnd]
      return (key, value) :: (← blockEntries fuel start)
    | none =>
      if (← takeIf .blockEnd).isSome then return []
      refuseToken "while parsing a block mapping" start "expected <block end>, but found "

/-- The items of a sequence in brackets that began at a place. An item with a colon is a
mapping of one entry. -/
def flowItems : Nat → Mark → Bool → Reader (List Node)
  | 0, _, _ => return []
  | fuel + 1, start, first => do
    if (← takeIf .flowSequenceEnd).isSome then return []
    if !first then comma "while parsing a flow sequence" start "expected ',' or ']', but got "
    match ← takeIf .key with
    | some token =>
      let key ← nodeUnless fuel false false [.value, .flowEntry, .flowSequenceEnd] token.stop
      let value ← entryValue fuel false [.flowEntry, .flowSequenceEnd]
      return .mapping .map [(key, value)] token.start :: (← flowItems fuel start false)
    | none =>
      if (← takeIf .flowSequenceEnd).isSome then return []
      let item ← node fuel false false
      return item :: (← flowItems fuel start false)

/-- The entries of a mapping in brackets that began at a place. -/
def flowEntries : Nat → Mark → Bool → Reader (List (Node × Node))
  | 0, _, _ => return []
  | fuel + 1, start, first => do
    if (← takeIf .flowMappingEnd).isSome then return []
    if !first then
      comma "while parsing a flow mapping" start "expected ',' or '\x7d', but got "
    match ← takeIf .key with
    | some token =>
      let key ← nodeUnless fuel false false [.value, .flowEntry, .flowMappingEnd] token.stop
      let value ← entryValue fuel false [.flowEntry, .flowMappingEnd]
      return (key, value) :: (← flowEntries fuel start false)
    | none =>
      if (← takeIf .flowMappingEnd).isSome then return []
      let key ← node fuel false false
      let value := Node.nothing (← nextToken).start
      return (key, value) :: (← flowEntries fuel start false)

end

/-- The meanings of handles that need no directive. -/
def standardHandles : List (String × String) := [("!", "!"), ("!!", Tag.lead)]

/-- The directives before a document; `versioned` tells that one told the version. -/
def directives (versioned : Bool) : Nat → Reader Unit
  | 0 => return
  | fuel + 1 => do
    let token ← nextToken
    match token.kind with
    | .versionDirective major =>
      let _ ← takeToken
      if versioned then refuse .parsing none none "found duplicate YAML directive" token.start
      if major != 1 then
        refuse .parsing none none "found incompatible YAML document (version 1.* is required)"
          token.start
      directives true fuel
    | .tagDirective handle lead =>
      let _ ← takeToken
      if ((← get).handles.lookup handle).isSome then
        refuse .parsing none none ("duplicate tag handle " ++ Text.quoted handle) token.start
      modify fun r => { r with handles := (handle, lead) :: r.handles }
      directives versioned fuel
    | .otherDirective =>
      let _ ← takeToken
      directives versioned fuel
    | _ => return

def skipDocumentEnds : Nat → Reader Unit
  | 0 => return
  | fuel + 1 => do
    if (← takeIf .documentEnd).isSome then skipDocumentEnds fuel

def isDirective : TokenKind → Bool
  | .versionDirective _ | .tagDirective .. | .otherDirective => true
  | _ => false

/-- The directives and the sign that begin a document; gives where they begin. At the end
of the text there is none. -/
def documentStart (fuel : Nat) : Reader (Option Mark) := do
  skipDocumentEnds fuel
  let token ← nextToken
  if token.kind == .streamEnd then return none
  modify fun r => { r with handles := [] }
  directives false fuel
  modify fun r => { r with handles := r.handles ++ standardHandles }
  if (← takeIf .documentStart).isNone then
    let token ← nextToken
    refuse .parsing none none
      ("expected '<document start>', but found " ++ Text.quoted token.kind.label)
      token.start
  return some token.start

def document (fuel : Nat) : Reader (Option Node) := do
  let token ← nextToken
  let explicit := isDirective token.kind || token.kind == .documentStart
  if token.kind == .streamEnd then return none
  let root ← if explicit then do
      let _ ← documentStart fuel
      let next ← nextToken
      if isDirective next.kind ||
          [.documentStart, .documentEnd, .streamEnd].contains next.kind then
        pure (.nothing next.start)
      else node fuel true false
    else do
      modify fun r => { r with handles := standardHandles }
      node fuel true false
  let _ ← takeIf .documentEnd
  match ← documentStart fuel with
  | none => return some root
  | some place =>
    refuse .composing (some "expected a single document in the stream") (some root.place)
      "but found another document" place

end DocSite.Yaml.Reader

import DocSite.Datum

/-! Tutorials and the tree that they form. A node of the tree knows its parent and
its children in order; a node without a parent stands apart. Moving a node takes it
from the children of its old parent and puts it behind those of the new one. The
root is no tutorial. -/

namespace DocSite

inductive ContentFormat
  | html
  | markdown
deriving DecidableEq, Repr

def ContentFormat.label : ContentFormat → String
  | .html => "html"
  | .markdown => "markdown"

structure Tutorial where
  name : String
  title : String
  content : String
  format : ContentFormat
deriving DecidableEq, Repr

/-- The content as markup, of which `render` makes Markdown. -/
def Tutorial.markup (render : List Char → String) (t : Tutorial) : String :=
  match t.format with
  | .html => t.content
  | .markdown => render t.content.toList

/-- A tutorial with its place among the others, which are named by their numbers. -/
structure TutorialNode where
  tutorial : Tutorial
  parent : Option Nat
  children : List Nat
deriving DecidableEq, Repr

/-- Nodes by number. -/
structure TutorialTree where
  nodes : List TutorialNode
deriving DecidableEq, Repr

namespace TutorialTree

/-- The number of the root. -/
def root : Nat := 0

/-- A root without tutorials. -/
def empty : TutorialTree := ⟨[⟨⟨"", "", "", .html⟩, none, []⟩]⟩

variable (t : TutorialTree)

def node? (i : Nat) : Option TutorialNode := t.nodes[i]?

def parentOf (i : Nat) : Option Nat := (t.node? i).bind TutorialNode.parent

def childrenOf (i : Nat) : List Nat := ((t.node? i).map TutorialNode.children).getD []

def tutorial? (i : Nat) : Option Tutorial := (t.node? i).map TutorialNode.tutorial

def update (i : Nat) (f : TutorialNode → TutorialNode) : TutorialTree :=
  ⟨t.nodes.modify i f⟩

/-- Adds a tutorial that stands apart, and tells its number. -/
def add (tutorial : Tutorial) : Nat × TutorialTree :=
  (t.nodes.length, ⟨t.nodes ++ [⟨tutorial, none, []⟩]⟩)

/-- Takes a node from the children of its parent. -/
def detach (child : Nat) : TutorialTree :=
  match t.parentOf child with
  | some parent => t.update parent fun n => { n with children := n.children.erase child }
  | none => t

/-- Makes a node the last child of another one. -/
def addChild (parent child : Nat) : TutorialTree :=
  ((t.detach child).update child fun n => { n with parent := some parent }).update parent
    fun n => { n with children := n.children ++ [child] }

/-- Whether a node is another one, or one of those above it. -/
def isWithin (ancestor : Nat) : Nat → Nat → Bool
  | 0, _ => false
  | fuel + 1, i => i == ancestor || (t.parentOf i).any (isWithin ancestor fuel)

/-- Whether a node would come to stand below itself as a child of another one. -/
def wouldLoop (parent child : Nat) : Bool := t.isWithin child (t.nodes.length + 1) parent

/-- Visits waiting nodes in turn; the children of each wait behind those already waiting. -/
def visit : Nat → List Nat → List Nat
  | 0, _ => []
  | _ + 1, [] => []
  | fuel + 1, i :: waiting => i :: visit fuel (waiting ++ t.childrenOf i)

/-- All nodes below a node, level by level. -/
def flattenFrom (top : Nat) : List Nat := t.visit t.nodes.length (t.childrenOf top)

/-- All nodes below the root, level by level. -/
def flatten : List Nat := t.flattenFrom root

/-- All tutorials, level by level. -/
def tutorials : List Tutorial := t.flatten.filterMap t.tutorial?

def find? (name : String) : Option Nat :=
  (t.nodes.tail.findIdx? fun n => n.tutorial.name == name).map (· + 1)

def addTop (tutorial : Tutorial) : TutorialTree :=
  let (i, t) := t.add tutorial
  t.addChild root i

@[simp] theorem flatten_empty : empty.flatten = [] := rfl

@[simp] theorem length_nodes_update (i : Nat) (f : TutorialNode → TutorialNode) :
    (t.update i f).nodes.length = t.nodes.length := by
  simp [update]

end TutorialTree

end DocSite

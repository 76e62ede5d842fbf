import DocSite.Dict
import DocSite.Longname

/-! The navigation tree. Every longname is filed below the longnames that
enclose it, and enclosing longnames that were not given get a node as well. A
node's key among its siblings is its last name; where another longname holds
that key, the name with the punctuation of its scope before it. -/

namespace DocSite

/-- A node of the navigation tree, with its children in insertion order. -/
structure NavNode where
  longname : String
  name : String
  memberof : String
  children : List (String × NavNode)
deriving Repr

/-- The nodes of one level, by key. -/
abbrev NavTree := Dict String NavNode

namespace NavTree

/-- The key under which a longname is filed on a level. -/
def keyFor (level : NavTree) (parts : Longname.Parts) : String :=
  match level.get? parts.name with
  | some node => if node.longname == parts.longname then parts.name
      else parts.punctuation ++ parts.name
  | none => parts.name

/-- Files a chain of longnames, each below the one before it. -/
def insertChain (level : NavTree) : List String → NavTree
  | [] => level
  | chunk :: rest =>
    let parts := Longname.shorten chunk
    let key := keyFor level parts
    match level.get? key with
    | some node => level.put key { node with children := insertChain node.children rest }
    | none => level.put key ⟨chunk, parts.name, parts.memberof, insertChain [] rest⟩

/-- Files a longname; an empty one is none. -/
def insert (tree : NavTree) (longname : String) : NavTree :=
  if longname == "" then tree else tree.insertChain (Longname.enclosing longname)

def ofLongnames (longnames : List String) : NavTree := longnames.foldl insert []

@[simp] theorem ofLongnames_nil : ofLongnames [] = [] := rfl

theorem ofLongnames_append (xs ys : List String) :
    ofLongnames (xs ++ ys) = ys.foldl insert (ofLongnames xs) := by
  simp [ofLongnames]

@[simp] theorem insert_empty (tree : NavTree) : tree.insert "" = tree := rfl

end NavTree

end DocSite

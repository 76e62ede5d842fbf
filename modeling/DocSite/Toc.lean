import DocSite.Link.Anchor
import DocSite.NavTree

/-! The table of contents: the navigation tree with the siblings ordered by key,
and for each node a label, which links to the page of its longname if there is
one. Trees of any depth have one: that an interpreter limits how deep calls may be
nested is left out, here and wherever else data is gone through by depth. -/

namespace DocSite

structure TocEntry where
  label : String
  id : String
  children : List TocEntry
deriving Repr

namespace TocEntry

/-- Items ordered by their keys, without these. -/
def ordered {α : Type} (items : List (String × α)) : List α :=
  (items.mergeSort fun a b => a.1 ≤ b.1).map (·.2)

def labelFor (r : LinkRegistry) (longname : String) : String :=
  r.linkTo longname (.plain (Longname.displayName longname)) none none

mutual

def ofNode (r : LinkRegistry) : NavNode → TocEntry
  | ⟨longname, _, _, children⟩ =>
    ⟨labelFor r longname, longname, ordered (ofLevel r children)⟩

/-- The entries of a level by key, in insertion order. -/
def ofLevel (r : LinkRegistry) : List (String × NavNode) → List (String × TocEntry)
  | [] => []
  | (key, node) :: rest => (key, ofNode r node) :: ofLevel r rest

end

def ofTree (r : LinkRegistry) (tree : NavTree) : List TocEntry := ordered (ofLevel r tree)

mutual

def data : TocEntry → Datum
  | ⟨label, id, children⟩ =>
    .ofFields [("label", .text label), ("id", .text id), ("children", .list (dataList children))]

def dataList : List TocEntry → List Datum
  | [] => []
  | entry :: entries => data entry :: dataList entries

end

end TocEntry

end DocSite

import DocSite.Doclet
import DocSite.Example
import DocSite.Longname

/-! Symbols: a doclet together with what the site derives for it. The kind and
the name may differ from those of the doclet, and the later fields are empty
until the index that holds the symbol is finished. -/

namespace DocSite

/-- A documented symbol. What it exports is given by its place among the retained
symbols. -/
structure Symbol where
  doclet : Doclet
  kind : String
  name : Option String
  category : Option Category := none
  examples : List Example := []
  see : List String := []
  ancestors : List String := []
  listeners : List String := []
  exported : Option Nat := none
  id : Option String := none
  sourcePath : Option String := none
  shortPath : Option String := none
deriving Repr

namespace Symbol

def longname (s : Symbol) : Option String := s.doclet.longname

def memberof (s : Symbol) : Option String := s.doclet.memberof

def isGlobal (s : Symbol) : Bool := s.doclet.isGlobal

/-- The symbol of a doclet. A constant is shown as a member, and a quoted name of
something external is one flat name. -/
def ofDoclet (d : Doclet) : Symbol where
  doclet := d
  kind := if d.kind == "constant" then "member" else d.kind
  name := if d.kind == "external" then d.name.map Longname.stripQuotes else d.name
  category := d.category?
  examples := (d.examples.getD []).map Example.ofText
  sourcePath := d.sourcePath

@[simp] theorem doclet_ofDoclet (d : Doclet) : (ofDoclet d).doclet = d := rfl

@[simp] theorem category_ofDoclet (d : Doclet) : (ofDoclet d).category = d.category? := rfl

end Symbol

end DocSite

/-! The categories that symbols are listed under, and the kinds of doclets that
fall into them. -/

namespace DocSite

/-- A category of symbols. Listings show the categories in this order. -/
inductive Category
  | classes
  | events
  | externals
  | functions
  | globals
  | listeners
  | members
  | mixins
  | modules
  | namespaces
  | packages
  | typedefs
deriving DecidableEq, Repr

namespace Category

def all : List Category :=
  [classes, events, externals, functions, globals, listeners, members, mixins, modules,
   namespaces, packages, typedefs]

def label : Category → String
  | .classes => "classes"
  | .events => "events"
  | .externals => "externals"
  | .functions => "functions"
  | .globals => "globals"
  | .listeners => "listeners"
  | .members => "members"
  | .mixins => "mixins"
  | .modules => "modules"
  | .namespaces => "namespaces"
  | .packages => "packages"
  | .typedefs => "typedefs"

def ofLabel? (label : String) : Option Category := all.find? fun c => c.label == label

/-- The category of a kind of doclets; a constant is a member. -/
def ofKind? : String → Option Category
  | "class" => some .classes
  | "constant" => some .members
  | "event" => some .events
  | "external" => some .externals
  | "function" => some .functions
  | "member" => some .members
  | "mixin" => some .mixins
  | "module" => some .modules
  | "namespace" => some .namespaces
  | "package" => some .packages
  | "typedef" => some .typedefs
  | _ => none

def hasPage : Category → Bool
  | .classes | .externals | .mixins | .modules | .namespaces => true
  | _ => false

def titleLead : Category → String
  | .classes => "Class: "
  | .externals => "External: "
  | .globals => "Globals"
  | .mixins => "Mixin: "
  | .modules => "Module: "
  | .namespaces => "Namespace: "
  | _ => ""

theorem mem_all (c : Category) : c ∈ all := by cases c <;> decide

theorem nodup_all : all.Nodup := by decide

@[simp] theorem ofLabel?_label (c : Category) : ofLabel? c.label = some c := by
  cases c <;> decide

end Category

end DocSite

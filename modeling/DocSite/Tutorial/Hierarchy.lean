import DocSite.Datum
import DocSite.Tutorial

/-! The hierarchy of tutorials that a file describes: under the name of a tutorial, a
title and children. Children are names, or names with settings of the same form.
Applying an entry gives the tutorial its title, moves it under its parent and goes
on with its children. Names of no tutorial, and moves below the tutorial itself,
are passed over. -/

namespace DocSite

/-- What a hierarchy says of one tutorial. The children are missing if what stands
there cannot be gone through. -/
inductive HierarchyEntry
  | mk (name : String) (title : Option String) (children : Option (List HierarchyEntry))
deriving Repr, Inhabited

namespace HierarchyEntry

def ofName (name : String) : HierarchyEntry := ⟨name, none, some []⟩

/-- The title in the settings of a tutorial, unless it is missing or counts as false. -/
def titleIn (settings : Datum) : Option String :=
  (settings.field? "title").bind fun title => if title.truthy then some title.display else none

mutual

def childrenIn : Datum → Option (List HierarchyEntry)
  | .dict entries => childrenAmong entries
  | _ => some []

def childrenAmong : List (Datum × Datum) → Option (List HierarchyEntry)
  | [] => some []
  | (key, value) :: rest =>
    if Datum.sameKey key (.text "children") then
      if value.truthy then ofChildren value else some []
    else childrenAmong rest

/-- The entries that a value under `children` lists. -/
def ofChildren : Datum → Option (List HierarchyEntry)
  | .dict entries => some (ofEntries entries)
  | .list items => some (items.map fun item => ofName item.display)
  | .text s => some (s.toList.map fun c => ofName (.ofList [c]))
  | _ => none

def ofEntries : List (Datum × Datum) → List HierarchyEntry
  | [] => []
  | (name, settings) :: rest =>
    ⟨name.display, titleIn settings, childrenIn settings⟩ :: ofEntries rest

end

end HierarchyEntry

namespace TutorialTree

def retitle (t : TutorialTree) (i : Nat) : Option String → TutorialTree
  | some title => t.update i fun n => { n with tutorial := { n.tutorial with title } }
  | none => t

/-- Moves a node to a parent, unless it is there. -/
def moveTo (t : TutorialTree) (parent i : Nat) : TutorialTree :=
  if t.parentOf i == some parent then t else t.addChild parent i

mutual

/-- Applies an entry below a parent; without one, the tutorial stays where it is. Children
that cannot be gone through are an end to it. -/
def apply (t : TutorialTree) (parent? : Option Nat) : HierarchyEntry → Option TutorialTree
  | ⟨name, title, children⟩ =>
    match t.find? name with
    | none => some t
    | some i =>
      let t := t.retitle i title
      let parent := parent?.getD ((t.parentOf i).getD root)
      if t.wouldLoop parent i then some t
      else
        let t := t.moveTo parent i
        match children with
        | some entries => applyAll t (some i) entries
        | none => none

def applyAll (t : TutorialTree) (parent? : Option Nat) : List HierarchyEntry → Option TutorialTree
  | [] => some t
  | entry :: rest =>
    match apply t parent? entry with
    | some t => applyAll t parent? rest
    | none => none

end

end TutorialTree

end DocSite

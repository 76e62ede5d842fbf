import DocSite.Datum
import DocSite.Link.Anchor

/-! What a view finds in the data of its page. A value may be missing; it counts as
false and shows as nothing, but has no parts. Texts are shown escaped, unless they
are markup already. -/

namespace DocSite

/-- Why a view could not be shown: a missing value was asked for its parts, or a value
cannot be gone through, be linked to or be cut like a longname, or stands under a name
that the view itself needs. -/
inductive ViewError
  | missing
  | notList
  | notTarget
  | notLongname
  | nameTaken (name : String)
deriving DecidableEq, Repr

/-- A value in the data of a page, which may be missing. -/
abbrev ViewValue := Option Datum

namespace ViewValue

/-- The part of a value under a name. Only mappings have parts. -/
def part (v : ViewValue) (name : String) : Except ViewError ViewValue :=
  match v with
  | none => .error .missing
  | some d => .ok (d.field? name)

def isTrue (v : ViewValue) : Bool := v.any Datum.truthy

/-- What a value goes through: the items of a list, the characters of a text or the
keys of a mapping. -/
def items (v : ViewValue) : Except ViewError (List Datum) :=
  match v with
  | none => .ok []
  | some (.list items) => .ok items
  | some (.text s) => .ok (s.toList.map fun c => .text (.ofList [c]))
  | some (.dict entries) => .ok (entries.map Prod.fst)
  | some _ => .error .notList

def entries (v : ViewValue) : Except ViewError (List (Datum × Datum)) :=
  match v with
  | some (.dict entries) => .ok entries
  | _ => .error .missing

def markup (v : ViewValue) : String := (v.map Datum.display).getD ""

def shown (v : ViewValue) : String := Text.escape v.markup

def longname (v : ViewValue) : Except ViewError String :=
  match v with
  | some (.text s) => .ok s
  | _ => .error .notLongname

/-- Whether a value can be looked up by: lists and mappings cannot. -/
def isTarget (v : ViewValue) : Bool :=
  match v with
  | some (.list _) | some (.dict _) => false
  | _ => true

/-- The markup that a condition lets through. -/
def guarded (condition : Bool) (body : Except ViewError String) : Except ViewError String :=
  if condition then body else .ok ""

def each (v : ViewValue) (body : ViewValue → Except ViewError String) :
    Except ViewError String := do
  return String.join (← (← v.items).mapM fun item => body (some item))

@[simp] theorem shown_none : shown none = "" := rfl

@[simp] theorem shown_text (s : String) : shown (some (.text s)) = Text.escape s := rfl

end ViewValue

end DocSite

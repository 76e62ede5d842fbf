import DocSite.Doclet

/-! The doclets that a site is made of: those that are not pruned, ordered by
longname, version and the release they appeared in, missing ones counting as
empty. The order compares code points, and equal doclets stay in input order. -/

namespace DocSite.Doclet

/-- The enclosing longname of what stands inside an unnamed function. -/
def anonymous : String := "<anonymous>"

/-- Whether a doclet is left out of the site. -/
def isPrunable (includePrivate : Bool) (d : Doclet) : Bool :=
  d.undocumented || d.ignored || d.memberof == some anonymous ||
    (d.access == some "private" && !includePrivate)

def sortKey (d : Doclet) : List String := [d.longname.getD "", d.version.getD "", d.since.getD ""]

def sortsBefore (d e : Doclet) : Bool := !decide (e.sortKey < d.sortKey)

/-- Prunes and orders doclets. -/
def arrange (includePrivate : Bool) (doclets : List Doclet) : List Doclet :=
  (doclets.filter fun d => !d.isPrunable includePrivate).mergeSort sortsBefore

/-- Why doclets could not be read from structured data. -/
inductive ListError
  | notList
  | notRecord (position : Nat)
  | misfit (position : Nat) (cause : MisfitCause)
deriving DecidableEq, Repr

def ListError.message : ListError → String
  | .notList => "expected a JSON array of doclets"
  | .notRecord position => "item " ++ toString position ++ " is not an object"
  | .misfit position cause => "item " ++ toString position ++ ": " ++ cause.message

/-- Reads the doclets of a list that starts at a position. -/
def readItems (position : Nat) : List Datum → Except ListError (List Doclet)
  | [] => .ok []
  | .dict entries :: items =>
    match read (.dict entries) with
    | .error misfit => .error (.misfit position misfit.cause)
    | .ok first => (readItems (position + 1) items).map (first :: ·)
  | _ :: _ => .error (.notRecord position)

def readList : Datum → Except ListError (List Doclet)
  | .list items => readItems 0 items
  | _ => .error .notList

theorem arrange_perm (p : Bool) (ds : List Doclet) :
    (arrange p ds).Perm (ds.filter fun d => !d.isPrunable p) :=
  List.mergeSort_perm _ _

end DocSite.Doclet

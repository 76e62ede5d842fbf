import DocSite.Symbol
import DocSite.Text.Blank

/-! Where a symbol goes: on a page of its own, or on the page of what encloses
it, under a fragment. Containers, module exports and longnames that need a file
have a page. A member goes to the page of its enclosing longname, or to the page
of globals if it has none; one whose longname speaks of a container that the
member is not goes to a page of that name. -/

namespace DocSite

/-- Kinds of symbols that contain others and so have a page. -/
def containerKinds : List String := ["class", "external", "mixin", "module", "namespace"]

/-- Kinds that stand before a name, with a colon, in fragments and longnames. -/
def namespaceKinds : List String := ["event", "external", "module", "package"]

/-- The name that the page of globals is registered under. -/
def globalName : String := "global"

namespace Symbol

/-- The name of a symbol as a fragment shows it: the punctuation of its scope, its
namespace, its name and its variation. The hash is left out, since it opens the
fragment. -/
def linkName (s : Symbol) : String :=
  let lead := if namespaceKinds.contains s.kind then s.kind ++ ":" else ""
  let body := lead ++ s.name.getD "" ++ s.doclet.variation.getD ""
  match s.doclet.scope.bind Scope.ofLabel? with
  | some .static => "." ++ body
  | some .inner => "~" ++ body
  | some .onInstance | none => body

end Symbol

/-- The page that a symbol goes to, by the name it is registered under, and
whether the symbol has a fragment on it. -/
structure Placement where
  owner : String
  wantsFragment : Bool
deriving DecidableEq, Repr

namespace Placement

/-- The container that a longname names before its last colon, as far as the first
blank. -/
def namedContainer? (longname : String) : Option String :=
  let run := longname.toList.takeWhile fun c => !Text.isBlank c
  match run.reverse.dropWhile (· != ':') with
  | _ :: before =>
    let kind := String.ofList before.reverse
    if containerKinds.contains kind then some kind else none
  | [] => none

def hasPage (s : Symbol) (needsFile : Bool) : Bool :=
  containerKinds.contains s.kind || s.doclet.isModuleExport || needsFile

/-- Where a symbol with a longname goes. -/
def ofSymbol (s : Symbol) (longname : String) (needsFile : Bool) : Placement :=
  if hasPage s needsFile then ⟨longname, false⟩
  else if (namedContainer? longname).isSome then
    ⟨s.memberof.getD longname, s.name != some longname⟩
  else
    ⟨s.memberof.getD globalName,
      s.name != some longname || s.doclet.scope == some "global" || s.memberof.isNone⟩

end Placement

end DocSite

import DocSite.Doclet.Store
import DocSite.FileTree.Text
import DocSite.Json.Parser

/-! The file of doclets that a site is made from. It holds a JSON list in UTF-8. -/

namespace DocSite.Doclet

inductive FileFault
  | unreadable (cause : FileError)
  | malformed (fault : Json.Fault)
  | notDoclets (error : ListError)
deriving DecidableEq, Repr

def FileFault.message : FileFault → String
  | .unreadable cause => cause.message
  | .malformed fault => "JSON parse error: " ++ fault.message
  | .notDoclets error => error.message

/-- What failed when doclets were loaded, and where they should have come from. -/
structure LoadError where
  source : String
  fault : FileFault
deriving DecidableEq, Repr

def LoadError.message (e : LoadError) : String :=
  "unable to load doclets from " ++ e.source ++ ": " ++ e.fault.message

/-- Why loading ended: because of the doclets, because the file could not be read
as text at all, or because of a number in it. -/
inductive LoadFailure
  | load (error : LoadError)
  | text (error : TextError)
  | number (excess : Text.DigitExcess)
deriving DecidableEq, Repr

def LoadFailure.message : LoadFailure → String
  | .load error => error.message
  | .text error => error.message
  | .number excess => excess.message

def load (t : FileTree) (p : Path) : Except LoadFailure (List Doclet) :=
  let refuse (fault : FileFault) : LoadFailure := .load ⟨p.text, fault⟩
  match t.readText FileTree.plainEncoding p with
  | .ok cs =>
    match Json.parse cs with
    | .ok value => (readList value).mapError fun error => refuse (.notDoclets error)
    | .error (.digits excess) => .error (.number excess)
    | .error fault => .error (refuse (.malformed fault))
  | .error (.file cause) =>
    .error (if cause.isRefusal then refuse (.unreadable cause) else .text (.file cause))
  | .error error => .error (.text error)

end DocSite.Doclet

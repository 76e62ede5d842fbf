import DocSite.Category
import DocSite.Dict
import DocSite.Field

/-! Doclets: one record per documented symbol, as the input lists them. A doclet
has a kind and, where they apply, a longname, a name and its place; fields that
the program does not know are kept as they are. Reading refuses a record whose
known fields do not fit. -/

namespace DocSite

/-- Where a symbol stands in the source. -/
structure SourceMeta where
  path : Option String
  filename : Option String
  lineno : Option Int
  extra : List (String × Datum)
deriving Repr

/-- A record about one symbol. Longname, name, enclosing longname and scope are
absent when the input has them empty. -/
structure Doclet where
  kind : String
  longname : Option String
  name : Option String
  memberof : Option String
  scope : Option String
  access : Option String
  variation : Option String
  version : Option String
  since : Option String
  undocumented : Bool
  ignored : Bool
  location : Option SourceMeta
  examples : Option (List String)
  see : Option (List String)
  listens : Option (List String)
  extra : List (String × Datum)
deriving Repr

namespace SourceMeta

def fieldNames : List String := ["path", "filename", "lineno"]

def read : Field.Reader SourceMeta
  | .dict entries => do
    let record := Datum.dict entries
    Field.checkNames record
    let path ← Field.getD record "path" (Field.optional Field.text) none
    let filename ← Field.getD record "filename" (Field.optional Field.text) none
    let lineno ← Field.getD record "lineno" (Field.optional Field.whole) none
    return { path, filename, lineno, extra := Field.others record fieldNames }
  | _ => Field.fail (.notRecord "DocletMeta")

def withoutSlashes (s : String) : String :=
  .ofList (s.toList.reverse.dropWhile (· == '/')).reverse

/-- The path of the source file: the directory and the file name, joined. The
directory may be missing, and one called null counts as missing. -/
def sourcePath (m : SourceMeta) : Option String :=
  match m.filename with
  | none | some "" => none
  | some filename => match m.path with
    | none | some "" | some "null" => some filename
    | some path => some (withoutSlashes path ++ "/" ++ filename)

end SourceMeta

namespace Doclet

def fieldNames : List String :=
  ["kind", "longname", "name", "memberof", "scope", "access", "variation", "version", "since",
   "undocumented", "ignore", "meta", "examples", "see", "listens"]

/-- Reads a kind, which must hold more than blanks. -/
def readKind : Field.Reader String := fun value => do
  let s ← Field.text value
  let kind := Text.trim s
  if kind == "" then Field.fail (.refused "kind must be non-empty") else return kind

/-- Reads a text that counts as absent when it is empty. -/
def readName : Field.Reader (Option String) := fun value => do
  let s? ← Field.optional Field.text value
  return s?.filter (· != "")

/-- Reads a doclet. The names of all its fields come first, and then the fields in the order in
which they are declared. -/
def read : Field.Reader Doclet := fun record => do
  let text? (name : String) := Field.getD record name (Field.optional Field.text) none
  let name? (name : String) := Field.getD record name readName none
  let texts? (name : String) :=
    Field.getD record name (Field.optional (Field.list Field.text)) none
  Field.checkNames record
  let kind ← Field.get record "kind" readKind
  let longname ← name? "longname"
  let name ← name? "name"
  let memberof ← name? "memberof"
  let scope ← name? "scope"
  let access ← text? "access"
  let variation ← text? "variation"
  let version ← text? "version"
  let since ← text? "since"
  let undocumented ← Field.getD record "undocumented" Field.truth false
  let ignored ← Field.getD record "ignore" Field.truth false
  let location ← Field.getD record "meta" (Field.optional SourceMeta.read) none
  let examples ← texts? "examples"
  let see ← texts? "see"
  let listens ← texts? "listens"
  return ⟨kind, longname, name, memberof, scope, access, variation, version, since,
    undocumented, ignored, location, examples, see, listens, Field.others record fieldNames⟩

def moduleLead : String := "module:"

/-- Kinds of doclets that are listed on the page of globals when nothing encloses them. -/
def globalKinds : List String := ["member", "function", "constant", "typedef"]

def isGlobal (d : Doclet) : Bool := d.memberof.isNone && globalKinds.contains d.kind

/-- Whether the doclet describes what a module exports: it bears the longname of
the module as its name. -/
def isModuleExport (d : Doclet) : Bool :=
  match d.longname with
  | some longname => d.name == some longname && moduleLead.toList.isPrefixOf longname.toList
  | none => false

/-- Whether the doclet is a class or function that a module exports, which is
shown with its module. -/
def isExportCandidate (d : Doclet) : Bool :=
  (d.kind == "class" || d.kind == "function") && d.isModuleExport

/-- The category of the doclet, if it is listed under one. -/
def category? (d : Doclet) : Option Category :=
  if d.isExportCandidate then none else Category.ofKind? d.kind

def sourcePath (d : Doclet) : Option String := d.location.bind SourceMeta.sourcePath

/-- The value of a field that the program does not know. -/
def extra? (d : Doclet) (name : String) : Option Datum := Dict.get? d.extra name

end Doclet

end DocSite

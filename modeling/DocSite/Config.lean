import DocSite.Field
import DocSite.Pattern.Parser

/-! The settings of a site: whether source files get pages, the encoding, what
page titles begin with, and the static files. Settings are read from structured
data and written back as such; reading what was written gives the same settings. -/

namespace DocSite

/-- A pattern together with the text it was read from. -/
structure PathPattern where
  text : String
  pattern : Pattern
  parsed : Pattern.parse text.toList = .ok pattern

namespace PathPattern

def ofText (text : String) : Except Pattern.Failure PathPattern :=
  match h : Pattern.parse text.toList with
  | .ok pattern => .ok ⟨text, pattern, h⟩
  | .error failure => .error failure

end PathPattern

/-- Which further files are copied into the site. -/
structure StaticFiles where
  paths : List String
  include? : Option PathPattern
  exclude? : Option PathPattern
  excluded : List String

structure Config where
  writesSources : Bool
  encoding : String
  titleLead : String
  staticFiles : StaticFiles

namespace StaticFiles

/-- No further files. -/
def empty : StaticFiles := ⟨[], none, none, []⟩

def recordName : String := "StaticFilesConfig"

def fieldNames : List String := ["paths", "include_pattern", "exclude_pattern", "exclude"]

/-- Keeps the first of texts that are the same. -/
def distinct : List String → List String
  | [] => []
  | s :: rest => s :: (distinct rest).filter (· != s)

/-- Trims paths and leaves out blank ones and repetitions. -/
def tidyPaths (paths : List String) : List String :=
  distinct ((paths.map Text.trim).filter (· != ""))

def readPaths : Field.Reader (List String) := fun value =>
  return tidyPaths (← Field.list Field.text value)

/-- Reads a pattern. A blank one counts as absent. -/
def readPattern : Field.Reader (Option PathPattern) := fun value => do
  match ← Field.optional Field.text value with
  | none => return none
  | some s =>
    let text := Text.trim s
    if text == "" then return none
    match PathPattern.ofText text with
    | .ok pattern => return some pattern
    | .error failure => Field.fail (.refused (failure.message text.toList))

end StaticFiles

namespace Field

/-- Refuses a field whose name is not among the known ones. -/
def onlyKnown (record : Datum) (names : List String) : Except Misfit Unit :=
  match others record names with
  | [] => .ok ()
  | (name, _) :: _ => .error ⟨[name], .unknownField⟩

end Field

namespace StaticFiles

def read : Field.Reader StaticFiles := fun record =>
  match record with
  | .dict _ => do
    let paths ← Field.getD record "paths" readPaths []
    let included ← Field.getD record "include_pattern" readPattern none
    let banned ← Field.getD record "exclude_pattern" readPattern none
    let excluded ← Field.getD record "exclude" readPaths []
    Field.onlyKnown record fieldNames
    return ⟨paths, included, banned, excluded⟩
  | _ => Field.fail (.notRecord recordName)

def data (s : StaticFiles) : Datum :=
  .ofFields [("paths", .ofTexts s.paths),
    ("include_pattern", .ofText? (s.include?.map PathPattern.text)),
    ("exclude_pattern", .ofText? (s.exclude?.map PathPattern.text)),
    ("exclude", .ofTexts s.excluded)]

/-- Whether a pattern of static files has a number that is too large. -/
def isVast (record : Datum) : Bool :=
  ["include_pattern", "exclude_pattern"].any fun name =>
    match record.field? name with
    | some (.text s) =>
      match PathPattern.ofText (Text.trim s) with
      | .error .tooLarge => true
      | _ => false
    | _ => false

end StaticFiles

namespace Config

def fieldNames : List String :=
  ["output_source_files", "encoding", "page_title_prefix", "static_files"]

/-- Reads the name of an encoding, which need not be a known one. -/
def readEncoding : Field.Reader String := fun value => do
  let text := Text.trim (← Field.text value)
  if text == "" then Field.fail (.refused "encoding must be non-empty") else return text

/-- The settings of a site for which nothing is set. -/
def standard : Config := ⟨true, "utf-8", "", .empty⟩

/-- Reads settings. Fields that are absent keep their standard value, and fields
that are not known are refused, after the known ones. -/
def read : Field.Reader Config := fun record => do
  let writesSources ← Field.getD record "output_source_files" Field.truth standard.writesSources
  let encoding ← Field.getD record "encoding" readEncoding standard.encoding
  let titleLead ← Field.getD record "page_title_prefix" Field.text standard.titleLead
  let staticFiles ← Field.getD record "static_files" StaticFiles.read standard.staticFiles
  Field.onlyKnown record fieldNames
  return ⟨writesSources, encoding, titleLead, staticFiles⟩

def data (c : Config) : Datum :=
  .ofFields [("output_source_files", .bool c.writesSources), ("encoding", .text c.encoding),
    ("page_title_prefix", .text c.titleLead), ("static_files", c.staticFiles.data)]

end Config

end DocSite

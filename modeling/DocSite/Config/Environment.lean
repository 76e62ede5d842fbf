import DocSite.Config.Source
import DocSite.SourcePath

/-! Settings from the environment. Each variable sets one field; the fields that no
variable names stay as they are. -/

namespace DocSite.Config

/-- Variables and their values. -/
abbrev Environment := Dict String String

/-- Why the environment holds no valid settings. -/
inductive EnvironmentError
  | notTruth (name : String)
  | invalid (error : SourceError)
deriving DecidableEq, Repr

def EnvironmentError.message : EnvironmentError → String
  | .notTruth name => name ++ " must be a boolean value"
  | .invalid error => error.message

/-- The truth value that a word means. Fewer words mean one here than in a file. -/
def truthOfWord? (s : String) : Option Bool :=
  let word := Text.lower (Text.trim s)
  if ["1", "true", "yes", "on"].contains word then some true
  else if ["0", "false", "no", "off"].contains word then some false
  else none

def sourcesVariable : String := "BASELINE_OUTPUT_SOURCE_FILES"

def encodingVariable : String := "BASELINE_ENCODING"

def titleVariable : String := "BASELINE_PAGE_TITLE_PREFIX"

def pathsVariable : String := "BASELINE_STATIC_PATHS"

/-- Puts a value under a field of a record. -/
def setField (record : Datum) (name : String) (value : Datum) : Datum :=
  match record with
  | .dict entries => .dict (Datum.putEntry entries (.text name) value)
  | other => other

/-- Puts the value of a variable, if it is set, under a field. -/
def setFrom (env : Environment) (name field : String) (value : String → Datum) (record : Datum) :
    Datum :=
  match env.get? name with
  | some s => setField record field (value s)
  | none => record

def colonParts (s : String) : List String :=
  (SourcePath.splitAt ':' s.toList).map String.ofList

/-- The settings as data, with the fields that the environment sets. -/
def overridden (env : Environment) (c : Config) : Except EnvironmentError Datum := do
  let record ← match env.get? sourcesVariable with
    | none => pure c.data
    | some s => match truthOfWord? s with
      | some b => pure (setField c.data "output_source_files" (.bool b))
      | none => throw (.notTruth sourcesVariable)
  let static := setFrom env pathsVariable "paths" (fun s => .ofTexts (colonParts s))
    c.staticFiles.data
  return setField (setFrom env titleVariable "page_title_prefix" .text
    (setFrom env encodingVariable "encoding" .text record)) "static_files" static

/-- The settings with those that the environment sets. -/
def withEnvironment (env : Environment) (c : Config) : Except EnvironmentError Config := do
  let record ← overridden env c
  (read record).mapError fun m => .invalid ⟨"environment", .misfit m⟩

end DocSite.Config

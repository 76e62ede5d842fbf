import DocSite.Config
import DocSite.FileTree.Text
import DocSite.Yaml

/-! Where settings come from. A file of settings is a mapping, or a mapping whose
entry `templates` holds a section for this program. Its keys may be spelled with
inner capitals or with underscores. Settings from the environment win over those
of a file. -/

namespace DocSite.Config

inductive Invalid
  | unreadable (cause : FileError)
  | malformed (cs : List Char) (fault : Yaml.Fault)
  | notRecord
  | sectionNotRecord
  | misfit (misfit : Misfit)
deriving DecidableEq, Repr

/-- The name under which a file for many programs holds the settings of this one. -/
def sectionName : String := "baseline"

def Invalid.message : Invalid → String
  | .unreadable cause => cause.message
  | .malformed cs fault => "parse error: " ++ fault.message cs
  | .notRecord => "config must be an object"
  | .sectionNotRecord => "templates." ++ sectionName ++ " must be an object"
  | .misfit m => m.location ++ ": " ++ m.cause.message

/-- What is wrong with settings, and where they came from. -/
structure SourceError where
  source : String
  fault : Invalid
deriving DecidableEq, Repr

def SourceError.message (e : SourceError) : String :=
  "invalid configuration in " ++ e.source ++ ": " ++ e.fault.message

/-- Puts an underscore before each capital, the first character apart. -/
def splitCapitals : List Char → List Char
  | [] => []
  | c :: cs => c :: cs.flatMap fun c => if c.isUpper then ['_', c] else [c]

/-- A key in small letters with underscores between words. -/
def plainKey (key : String) : String := Text.lower (.ofList (splitCapitals key.toList))

mutual

/-- Structured data with all keys in small letters and underscores. -/
def plainKeys : Datum → Datum
  | .dict entries => .dict (plainEntries [] entries)
  | .list items => .list (plainItems items)
  | value => value

def plainItems : List Datum → List Datum
  | [] => []
  | item :: items => plainKeys item :: plainItems items

/-- Puts entries into a mapping, the later of two equal keys winning in the place
of the earlier. -/
def plainEntries (read : List (Datum × Datum)) : List (Datum × Datum) → List (Datum × Datum)
  | [] => read
  | (key, value) :: entries =>
    plainEntries (Datum.putEntry read (.text (plainKey key.display)) (plainKeys value)) entries

end

/-- The section of the settings that is for this program. -/
def sectionOf (settings : Datum) : Except Invalid Datum :=
  match settings.field? "templates" with
  | some (.dict entries) =>
    match Datum.lookup? entries (.text sectionName) with
    | some (.dict fields) => .ok (.dict fields)
    | some value => if value.truthy then .error .sectionNotRecord else .ok (.dict [])
    | none => .ok (.dict [])
  | _ => .ok settings

/-- Why loading settings ended: because they are not valid, because they go on without end, because
a number in a pattern among them is too large, because the file is no text, or because a
scalar in it does not fit its tag. -/
inductive LoadFailure
  | invalid (error : SourceError)
  | endless
  | tooLarge
  | text (error : TextError)
  | value (fault : Yaml.ValueFault)
deriving DecidableEq, Repr

def LoadFailure.message : LoadFailure → String
  | .invalid error => error.message
  | .endless => "maximum recursion depth exceeded"
  | .tooLarge => Pattern.Failure.tooLarge.message []
  | .text error => error.message
  | .value fault => fault.message

/-- Whether a pattern of the static files has a number that is too large. Nothing else that
is wrong with the settings counts then. -/
def isVast (settings : Datum) : Bool := (settings.field? "static_files").any StaticFiles.isVast

/-- The settings that structured data holds; null holds none. Their keys are gone through to the
end before any of them is read. -/
def ofDatum (source : String) : Datum → Except LoadFailure Config
  | .null => .ok standard
  | .dict entries => do
    let fields ← (sectionOf (.dict entries)).mapError fun fault => .invalid ⟨source, fault⟩
    if fields.isEndless then throw .endless
    let settings := plainKeys fields
    if isVast settings then throw .tooLarge
    (read settings).mapError fun m => .invalid ⟨source, .misfit m⟩
  | _ => .error (.invalid ⟨source, .notRecord⟩)

theorem ofDatum_dict (source : String) (entries : List (Datum × Datum)) :
    ofDatum source (.dict entries) = match sectionOf (.dict entries) with
      | .error fault => .error (.invalid ⟨source, fault⟩)
      | .ok fields =>
        if fields.isEndless then .error .endless
        else if isVast (plainKeys fields) then .error .tooLarge
        else (read (plainKeys fields)).mapError fun m => .invalid ⟨source, .misfit m⟩ := by
  rw [ofDatum]
  cases sectionOf (.dict entries) with
  | error fault => rfl
  | ok fields =>
    show (do
      if fields.isEndless then throw LoadFailure.endless
      if isVast (plainKeys fields) then throw LoadFailure.tooLarge
      (read (plainKeys fields)).mapError fun m => LoadFailure.invalid ⟨source, .misfit m⟩) = _
    dsimp only
    split
    · rfl
    · split <;> rfl

def load (yaml : Yaml.Loader) (t : FileTree) (p : Path) : Except LoadFailure Config :=
  let refuse (fault : Invalid) : LoadFailure := .invalid ⟨p.text, fault⟩
  match t.readText FileTree.plainEncoding p with
  | .ok cs =>
    match yaml cs with
    | .ok value => ofDatum p.text value
    | .error (.value fault) => .error (.value fault)
    | .error fault => .error (refuse (.malformed cs fault))
  | .error (.file cause) =>
    .error (if cause.isRefusal then refuse (.unreadable cause) else .text (.file cause))
  | .error error => .error (.text error)

end DocSite.Config

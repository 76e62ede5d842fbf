import DocSite.Build.Site
import DocSite.CommandLine
import DocSite.Config.Environment
import DocSite.Doclet.File
import DocSite.Tutorial.Directory

/-! What commands do. The outcome is an exit code, the text that is printed, and the
files afterwards. Input that cannot be loaded is reported as an object that names the
kind of the error; what else goes wrong ends the program. -/

namespace DocSite

structure ErrorReport where
  kind : String
  message : String
deriving DecidableEq, Repr

def PathFault.kind : PathFault → String
  | .notFound => "FileNotFoundError"
  | .fileExists => "FileExistsError"
  | .notDirectory => "NotADirectoryError"
  | .isDirectory => "IsADirectoryError"
  | .nameTooLong => "OSError"

def DeviceFault.kind : DeviceFault → String
  | .denied => "PermissionError"
  | _ => "OSError"

def FileError.report (e : FileError) : ErrorReport :=
  let kind := match e with
    | .refused fault _ => fault.kind
    | .denied fault _ | .brokenOff fault => fault.kind
    | .sameFile .. => "SameFileError"
    | .nullCharacter => "ValueError"
  ⟨kind, e.message⟩

def Text.CodecError.kind : Text.CodecError → String
  | .undecodable _ => "UnicodeDecodeError"
  | .unencodable _ => "UnicodeEncodeError"
  | .other kind _ => kind

def TextError.report (e : TextError) : ErrorReport :=
  match e with
  | .file cause => cause.report
  | .nullInEncoding => ⟨"ValueError", e.message⟩
  | .noCodec _ => ⟨"LookupError", e.message⟩
  | .codec cause => ⟨cause.kind, e.message⟩

def Yaml.Stage.kind : Yaml.Stage → String
  | .scanning => "ScannerError"
  | .parsing => "ParserError"
  | .composing => "ComposerError"
  | .constructing => "ConstructorError"

def Yaml.ValueFault.kind : Yaml.ValueFault → String
  | .emptyNumber => "IndexError"
  | .notTruth _ => "KeyError"
  | .notMoment => "AttributeError"
  | .largeCode => "OverflowError"
  | .notWhole .. | .digits _ | .notReal _ | .calendar _ | .noCharacter => "ValueError"

def Yaml.Fault.kind : Yaml.Fault → String
  | .unacceptable .. => "ReaderError"
  | .malformed complaint => complaint.stage.kind
  | .value fault => fault.kind

def Config.LoadFailure.report : Config.LoadFailure → ErrorReport
  | .invalid error => ⟨"ConfigError", error.message⟩
  | .endless => ⟨"RecursionError", Config.LoadFailure.endless.message⟩
  | .tooLarge => ⟨"OverflowError", Pattern.Failure.tooLarge.message []⟩
  | .text error => error.report
  | .value fault => ⟨fault.kind, fault.message⟩

def Config.EnvironmentError.report (e : Config.EnvironmentError) : ErrorReport :=
  match e with
  | .notTruth _ => ⟨"ValueError", e.message⟩
  | .invalid _ => ⟨"ConfigError", e.message⟩

def Doclet.LoadFailure.report : Doclet.LoadFailure → ErrorReport
  | .load error => ⟨"DocletLoadError", error.message⟩
  | .text error => error.report
  | .number excess => ⟨"ValueError", excess.message⟩

def TutorialError.report (e : TutorialError) : ErrorReport :=
  match e with
  | .text cause => cause.report
  | .malformed _ fault => ⟨fault.kind, e.message⟩
  | .notMapping _ => ⟨"ValueError", e.message⟩
  | .noChildren => ⟨"TypeError", e.message⟩

namespace CommandLine

inductive Crash
  | build (cause : BuildError)
  | config (cause : Config.LoadFailure)
  | doclets (cause : Doclet.LoadFailure)
  | tutorials (cause : TutorialError)
  | outside (written destination : Path)
deriving DecidableEq, Repr

/-- How a command ends: with an exit code and the text that it prints, or by a crash. -/
inductive Ending
  | exit (code : Nat) (output : String)
  | crash (cause : Crash)
deriving DecidableEq, Repr

/-- How a command ended, and the files as it left them. -/
structure Outcome where
  ending : Ending
  files : FileTree

/-- A value as it is printed: keys are sorted, and a line feed ends it. -/
def printed (pretty : Bool) (value : Datum) : String :=
  Json.render pretty (Json.sortKeys value) ++ "\n"

/-- The outcome of a command whose input could not be loaded. -/
def refused (pretty : Bool) (t : FileTree) (report : ErrorReport) : Outcome :=
  ⟨.exit 1 (printed pretty (.ofFields [("ok", .bool false), ("error_type", .text report.kind),
    ("message", .text report.message)])), t⟩

/-- Why the input of a build could not be loaded: an error that is reported, or one that
ends the program. -/
inductive LoadStop
  | reported (report : ErrorReport)
  | crash (cause : Crash)

/-- Kinds of errors that are not reported but end the program. -/
def crashKinds : List String :=
  ["OverflowError", "IndexError", "KeyError", "AttributeError", "TypeError", "RecursionError"]

/-- The end of loading by an error, which is reported unless its kind is one of those that
end the program. -/
def LoadStop.ofReport (report : ErrorReport) (cause : Crash) : LoadStop :=
  if crashKinds.contains report.kind then .crash cause else .reported report

section Load
variable (tools : Tools) (t : FileTree)

/-- The text of a page in Markdown as markup. -/
def loadReadme (p : Path) : Except LoadStop String := do
  let text ← (t.readText FileTree.plainEncoding p).mapError fun e => .reported e.report
  return tools.markdown text

def loadTutorials (p : Path) : Except LoadStop TutorialTree :=
  (TutorialTree.load tools.yaml t p).mapError fun e => .ofReport e.report (.tutorials e)

/-- The settings of a file, if one is given, and of the environment. -/
def loadConfig (env : Config.Environment) (file : Option Path) : Except LoadStop Config := do
  let config ← match file with
    | some p => (Config.load tools.yaml t p).mapError fun e => .ofReport e.report (.config e)
    | none => pure .standard
  (config.withEnvironment env).mapError fun e => .reported e.report

/-- The directory in which relative paths of the settings begin: that of their file, or the
current one. -/
def baseOf : Option Path → Path
  | some p => ⟨.root, (t.resolve p).dropLast⟩
  | none => ⟨.root, t.current⟩

def loadDoclets (includePrivate : Bool) (p : Path) : Except Doclet.LoadFailure (List Doclet) :=
  (Doclet.load t p).map (Doclet.arrange includePrivate)

def loadRequest (env : Config.Environment) (includePrivate : Bool)
    (doclets destination : Path) (config readme tutorials template : Option Path) :
    Except LoadStop SiteRequest := do
  let settings ← loadConfig tools t env config
  let doclets ← (loadDoclets t includePrivate doclets).mapError fun e => .reported e.report
  let readme ← readme.mapM (loadReadme tools t)
  let tutorials ← tutorials.mapM (loadTutorials tools t)
  return { doclets, destination, config := settings, tutorials := tutorials.getD .empty, readme,
           template, base := baseOf t config, tools }

end Load

def runPublish (t : FileTree) (pretty : Bool) : Except LoadStop SiteRequest → Outcome
  | .error (.reported report) => refused pretty t report
  | .error (.crash cause) => ⟨.crash cause, t⟩
  | .ok request =>
    match request.build t with
    | (.error cause, files) => ⟨.crash (.build cause), files⟩
    | (.ok b, files) => match b.summary with
      | .ok summary => ⟨.exit (if b.isOk then 0 else 1) (printed pretty summary), files⟩
      | .error (written, destination) => ⟨.crash (.outside written destination), files⟩

/-- Prints the table of contents of doclets whose addresses can be encoded. -/
def runToc (t : FileTree) (doclets : Path) (includePrivate pretty : Bool) : Outcome :=
  match loadDoclets t includePrivate doclets with
  | .error (.load error) => refused pretty t (Doclet.LoadFailure.load error).report
  | .error cause => ⟨.crash (.doclets cause), t⟩
  | .ok doclets =>
    match ((SymbolIndex.empty .fresh false).ingest doclets).finalize with
    | .error cause => ⟨.crash (.build (.index cause)), t⟩
    | .ok index =>
      let entries := TocEntry.ofTree index.registry index.navTree
      ⟨.exit 0 (printed pretty (.list (entries.map TocEntry.data))), t⟩

/-- What is wrong with the addresses of doclets, if anything. -/
def addressFault? (doclets : List Doclet) : Option IndexError :=
  match ((SymbolIndex.empty .fresh false).ingest doclets).finish with
  | .error cause => some cause
  | .ok _ => none

def Command.run (env : Config.Environment) (t : FileTree) (tools : Tools := {}) :
    Command → Outcome
  | .publish doclets destination config readme tutorials template includePrivate pretty _ =>
    runPublish t pretty (loadRequest tools t env includePrivate doclets destination config readme
      tutorials template)
  | .toc doclets includePrivate pretty =>
    match (loadDoclets t includePrivate doclets).toOption.bind addressFault? with
    | some cause => ⟨.crash (.build (.index cause)), t⟩
    | none => runToc t doclets includePrivate pretty

def run (words : List String) (env : Config.Environment) (t : FileTree) (tools : Tools := {}) :
    Outcome :=
  match parse words with
  | .error stop => ⟨.exit stop.exitCode "", t⟩
  | .ok command => command.run env t tools

end CommandLine

end DocSite

import DocSite.Path

/-! The command line: a command, its options in any order, and the file of doclets.
A long option may be shortened as long as it is clear which one is meant. After a
double dash everything is an argument. A line that does not fit is refused; asking
for help ends the reading at that place. -/

namespace DocSite.CommandLine

structure OptionSpec where
  name : String
  takesValue : Bool := false
  isRequired : Bool := false
  excludes : List String := []
deriving DecidableEq, Repr

/-- Why a line is not carried out. -/
inductive Stop
  | refused
  | help
deriving DecidableEq, Repr

def Stop.exitCode : Stop → Nat
  | .refused => 2
  | .help => 0

def helpOption : OptionSpec := { name := "--help" }

/-- A word of the line. An option that no command has is kept as unknown. -/
inductive Word
  | known (option : OptionSpec) (value : Option String)
  | unknown
  | divider
  | argument (text : String)
deriving DecidableEq, Repr

/-- Whether a word is a negative number, which is an argument. -/
def isNegativeNumber (cs : List Char) : Bool :=
  match cs with
  | '-' :: rest =>
    let (whole, places) := rest.span Char.isDigit
    match places with
    | [] => !whole.isEmpty
    | '.' :: digits => !digits.isEmpty && digits.all Char.isDigit
    | _ => false
  | _ => false

/-- A word cut at its first equals sign. -/
def splitValue (word : String) : String × Option String :=
  let (name, rest) := word.toList.span (· != '=')
  match rest with
  | _ :: value => (.ofList name, some (.ofList value))
  | [] => (word, none)

/-- The options that a name may be short for. -/
def candidates (options : List OptionSpec) (name : String) : List OptionSpec :=
  match options.find? (·.name == name) with
  | some option => [option]
  | none => options.filter fun o => name.toList.isPrefixOf o.name.toList

/-- What is left over behind a short option that asks for help, if anything is. The option may
be repeated in the same word, the first time after an equals sign. -/
def shortValue (cs : List Char) : Option String :=
  let rest := match cs with
    | '=' :: rest => if rest.isEmpty then cs else rest
    | cs => cs
  if rest.all (· == 'h') then none else some (.ofList rest)

/-- What a word before any divider is. -/
def wordOf (options : List OptionSpec) (word : String) : Except Stop Word :=
  match word.toList with
  | '-' :: '-' :: _ =>
    let (name, value) := splitValue word
    match candidates options name with
    | [option] => .ok (.known option value)
    | [] => .ok (if word.toList.contains ' ' then .argument word else .unknown)
    | _ => .error .refused
  | '-' :: c :: cs =>
    if c == 'h' then .ok (.known helpOption (shortValue cs))
    else if isNegativeNumber word.toList || word.toList.contains ' ' then .ok (.argument word)
    else .ok .unknown
  | _ => .ok (.argument word)

def wordsOf (options : List OptionSpec) : List String → Except Stop (List Word)
  | [] => .ok []
  | "--" :: rest => .ok (.divider :: rest.map .argument)
  | word :: rest => do
    let first ← wordOf options word
    return first :: (← wordsOf options rest)

/-- What has been read: the argument, the options with their values, and whether words
were left over. -/
structure Reading where
  argument : Option String := none
  options : List (String × Option String) := []
  hasLeftovers : Bool := false
deriving DecidableEq, Repr

namespace Reading

def has (r : Reading) (name : String) : Bool := r.options.any (·.1 == name)

/-- The value of an option; the last one counts. -/
def value? (r : Reading) (name : String) : Option String :=
  (r.options.reverse.find? (·.1 == name)).bind Prod.snd

def put (r : Reading) (option : OptionSpec) (value : Option String) : Except Stop Reading :=
  if option.excludes.any r.has then .error .refused
  else .ok { r with options := r.options ++ [(option.name, value)] }

/-- Notes an argument. Only one is expected. -/
def putArgument (r : Reading) (text : String) : Reading :=
  if r.argument.isNone then { r with argument := some text } else { r with hasLeftovers := true }

/-- Whether all that is required was read, and nothing else. -/
def isComplete (r : Reading) (options : List OptionSpec) : Bool :=
  r.argument.isSome && !r.hasLeftovers && options.all fun o => !o.isRequired || r.has o.name

end Reading

/-- Reads the words of a command. A divider belongs to the argument next to it. -/
def readWords (r : Reading) : List Word → Except Stop Reading
  | [] => .ok r
  | .unknown :: rest => readWords { r with hasLeftovers := true } rest
  | .known option (some value) :: rest => do
    if !option.takesValue then throw .refused
    readWords (← r.put option (some value)) rest
  | .known option none :: rest => do
    if option == helpOption then throw .help
    if option.takesValue then
      match rest with
      | .argument value :: rest => readWords (← r.put option (some value)) rest
      | _ => throw .refused
    else readWords (← r.put option none) rest
  | .argument text :: .divider :: rest =>
    if r.argument.isNone then readWords (r.putArgument text) rest
    else readWords { r with hasLeftovers := true } rest
  | .argument text :: rest => readWords (r.putArgument text) rest
  | .divider :: .argument text :: rest =>
    if r.argument.isNone then readWords (r.putArgument text) rest
    else readWords { r with hasLeftovers := true } rest
  | .divider :: rest => readWords { r with hasLeftovers := true } rest

/-- How much a build tells. -/
inductive Verbosity
  | normal
  | verbose
  | quiet
deriving DecidableEq, Repr

/-- What to do. -/
inductive Command
  | publish (doclets destination : Path) (config readme tutorials template : Option Path)
      (includePrivate pretty : Bool) (verbosity : Verbosity)
  | toc (doclets : Path) (includePrivate pretty : Bool)
deriving DecidableEq, Repr

def privateOption : OptionSpec := { name := "--private" }

def prettyOption : OptionSpec := { name := "--pretty" }

/-- The options of the command that prints the table of contents. -/
def tocOptions : List OptionSpec := [helpOption, privateOption, prettyOption]

def publishOptions : List OptionSpec :=
  [helpOption, { name := "--destination", takesValue := true, isRequired := true },
   { name := "--config", takesValue := true }, { name := "--readme", takesValue := true },
   { name := "--tutorials", takesValue := true }, { name := "--template", takesValue := true },
   privateOption, { name := "--verbose", excludes := ["--quiet"] },
   { name := "--quiet", excludes := ["--verbose"] }, prettyOption]

def publishCommand (r : Reading) : Command :=
  let path? (name : String) : Option Path := (r.value? name).map Path.ofString
  .publish (.ofString (r.argument.getD "")) ((path? "--destination").getD (.ofString ""))
    (path? "--config") (path? "--readme") (path? "--tutorials") (path? "--template")
    (r.has "--private") (r.has "--pretty")
    (if r.has "--verbose" then .verbose else if r.has "--quiet" then .quiet else .normal)

def tocCommand (r : Reading) : Command :=
  .toc (.ofString (r.argument.getD "")) (r.has "--private") (r.has "--pretty")

/-- Reads a command from the words after its name. -/
def readCommand (hasLeftovers : Bool) (options : List OptionSpec) (command : Reading → Command)
    (words : List String) : Except Stop Command := do
  let r ← readWords { hasLeftovers } (← wordsOf options words)
  if r.isComplete options then return command r else throw .refused

/-- Reads a line. Options before the name of the command, that for help apart, are left over. -/
def parseFrom (hasLeftovers : Bool) : List String → Except Stop Command
  | [] => .error .refused
  | "publish" :: words => readCommand hasLeftovers publishOptions publishCommand words
  | "toc" :: words => readCommand hasLeftovers tocOptions tocCommand words
  | "--" :: _ => .error .refused
  | word :: words => do
    match ← wordOf [helpOption] word with
    | .known _ none => throw .help
    | .unknown => parseFrom true words
    | _ => throw .refused

def parse (words : List String) : Except Stop Command := parseFrom false words

end DocSite.CommandLine

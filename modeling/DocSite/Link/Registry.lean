import DocSite.Dict
import DocSite.Link.Placement
import DocSite.Text.Case
import DocSite.Text.Encoding
import DocSite.Text.Percent

/-! The registry of links: which file names, fragments and addresses a run has
given out. A file name or fragment that differs from an earlier one by case only
is taken, and underscores are put at its end until it is free. The first address
registered under a name stays. -/

namespace DocSite

/-- Names and addresses given out so far. File names are kept under their lower
case and without their extension, fragments under their page and lower case. -/
structure LinkRegistry where
  files : Dict String String
  ids : Dict String (Dict String String)
  urls : Dict String String
  fragments : Dict String String
  tutorials : Dict String String
deriving Repr

inductive LinkError
  | noLongname
  | noUrl (longname : String)
  | noPage (longname : String)
  | noSourcePage (path : String)
  | noTutorialPage (name : String)
deriving DecidableEq, Repr

def LinkError.message : LinkError → String
  | .noLongname => "unable to resolve link for 'None': symbol has no longname"
  | .noUrl longname => "unable to resolve link for '" ++ longname ++
      "': no URL was registered before id assignment"
  | .noPage longname => "unable to resolve link for '" ++ longname ++
      "': page link was never registered"
  | .noSourcePage path => "unable to resolve link for '" ++ path ++
      "': source file link was never registered"
  | .noTutorialPage name => "unable to resolve link for '" ++ name ++
      "': tutorial link was never registered"

def fileExtension : String := ".html"

/-- An address cut at its first hash, into page and fragment. -/
def splitFragment (url : String) : String × String :=
  let (page, rest) := url.toList.span (· != '#')
  (.ofList page, .ofList rest.tail)

namespace FileName

/-- Characters that a file name must not hold. -/
def isUnsafe (c : Char) : Bool := "\\/?*:|'\"<>".toList.contains c

/-- A character of a name as it stands in a file name. -/
def safeChar (c : Char) : Char :=
  if isUnsafe c then '_' else if c == '~' then '-' else if c == '#' then '_' else c

/-- A name whose leading namespace ends in a hyphen instead of a colon. -/
def hyphenNamespace (cs : List Char) : List Char :=
  let kind := cs.takeWhile (· != ':')
  match cs.drop kind.length with
  | ':' :: rest => if namespaceKinds.contains (.ofList kind) then kind ++ '-' :: rest else cs
  | _ => cs

/-- A name without the variation at its end, which reaches from the first opening
parenthesis to a closing one that ends the name or its last line. -/
def dropVariation (cs : List Char) : List Char :=
  let (body, tail) := match cs.reverse with
    | '\n' :: ')' :: rest => ((')' :: rest).reverse, ['\n'])
    | _ => (cs, [])
  if body.getLast? == some ')' && body.contains '(' then body.takeWhile (· != '(') ++ tail
  else cs

/-- A name without a point or hyphen at its start. -/
def dropLead : List Char → List Char
  | '.' :: cs => cs
  | '-' :: cs => cs
  | cs => cs

/-- A name that is not empty and does not begin with an underscore. -/
def guardLead : List Char → List Char
  | [] => ['-', '_']
  | '_' :: cs => '-' :: '_' :: cs
  | cs => cs

/-- The file name that a name asks for, without extension. -/
def wanted (name : String) : String :=
  .ofList (guardLead (dropLead (dropVariation ((hyphenNamespace name.toList).map safeChar))))

end FileName

/-- The first of `base`, `base_`, `base__`, … whose lower case is not taken, where
`fuel` is at least the number of taken names. -/
def firstFree (taken : List String) (base : String) : Nat → String
  | 0 => base
  | fuel + 1 =>
    if taken.contains (Text.lower base) then firstFree taken (base ++ "_") fuel else base

/-- The first of `base`, `base_`, `base__`, … whose lower case is not taken. -/
def freeName (taken : List String) (base : String) : String := firstFree taken base taken.length

namespace LinkRegistry

/-- The registry of a new run. The file of the index page is taken, but no name is
registered for it, since a symbol may bear that name. -/
def fresh : LinkRegistry where
  files := [("index", "index"), ("global", "global")]
  ids := []
  urls := [(globalName, "global.html")]
  fragments := []
  tutorials := []

def indexUrl : String := "index.html"

def globalUrl : String := "global.html"

variable (r : LinkRegistry)

def urlFor (name : String) : Option String := r.urls.get? name

def fragmentFor (longname : String) : Option String := r.fragments.get? longname

def tutorialUrl (name : String) : Option String := r.tutorials.get? name

def issueFile (name : String) : String × LinkRegistry :=
  let base := freeName r.files.keys (FileName.wanted name)
  (base ++ fileExtension, { r with files := r.files.put (Text.lower base) name })

/-- Registers an address under a name. Without an address, the name gets the
address of a file of its own. An earlier address stays. -/
def register (name : String) (url? : Option String) : String × LinkRegistry :=
  match r.urlFor name with
  | some existing => (existing, r)
  | none => match url? with
    | some url => (url, { r with urls := r.urls.put name url })
    | none =>
      let (file, r) := r.issueFile name
      let url := Text.percentEncode file
      (url, { r with urls := r.urls.put name url })

/-- Gives out a fragment on the page of an address, without blanks. -/
def issueId (url candidate : String) : String × LinkRegistry :=
  let page := (splitFragment url).1
  let issued := (r.ids.get? page).getD []
  let id := freeName issued.keys (Text.withoutBlanks candidate)
  (id, { r with ids := r.ids.put page (issued.put (Text.lower id) id) })

/-- The fragment of a symbol on its page, empty if it has none. -/
def issueFragment (placement : Placement) (page : String) (s : Symbol) : String × LinkRegistry :=
  if placement.wantsFragment then r.issueId page s.linkName else ("", r)

/-- Gives a symbol with a longname its address, and its fragment if it has one. -/
def createLinkFor (s : Symbol) (longname : String) (needsFile : Bool) : String × LinkRegistry :=
  match r.urlFor longname with
  | some existing => (existing, r)
  | none =>
    let placement := Placement.ofSymbol s longname needsFile
    let (page, r) := r.register placement.owner none
    let (fragment, r) := r.issueFragment placement page s
    if fragment == "" then r.register longname (some page)
    else
      let url := page ++ "#" ++ Text.percentEncode fragment
      { r with fragments := r.fragments.put longname fragment }.register longname (some url)

/-- Gives a symbol its address. The longnames that need a file are `needsFile`. -/
def createLink (s : Symbol) (needsFile : List String) : Except LinkError (String × LinkRegistry) :=
  match s.longname with
  | none => .error .noLongname
  | some longname => .ok (r.createLinkFor s longname (needsFile.contains longname))

def registerTutorial (name : String) : String × LinkRegistry :=
  match r.tutorialUrl name with
  | some existing => (existing, r)
  | none =>
    let (file, r) := r.issueFile ("tutorial-" ++ name)
    let url := Text.percentEncode file
    (url, { r with tutorials := r.tutorials.put name url })

/-- The texts that addresses are encoded from: what files are named after, and the fragments. -/
def addressTexts : List String := r.files.vals.map FileName.wanted ++ r.fragments.vals

/-- Encodes the addresses in UTF-8, if that is possible. -/
def checkAddresses : Except Text.EncodeError Unit :=
  r.addressTexts.forM fun s => (Text.Encoding.encode .utf8 s.toList).map fun _ => ()

theorem register_of_urlFor {name url : String} (h : r.urlFor name = some url)
    (url? : Option String) : r.register name url? = (url, r) := by
  simp [register, h]

theorem createLinkFor_of_urlFor {s : Symbol} {longname url : String}
    (h : r.urlFor longname = some url) (needsFile : Bool) :
    r.createLinkFor s longname needsFile = (url, r) := by
  simp [createLinkFor, h]

theorem registerTutorial_of_tutorialUrl {name url : String} (h : r.tutorialUrl name = some url) :
    r.registerTutorial name = (url, r) := by
  simp [registerTutorial, h]

end LinkRegistry

end DocSite

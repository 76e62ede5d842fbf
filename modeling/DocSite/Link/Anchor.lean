import DocSite.Link.Registry
import DocSite.Text.Escape

/-! Anchors. A name that has an address is shown as an anchor, and one that has
none as plain text; an address of the web links to itself. Names, addresses and
labels are escaped here, so what these functions return is markup. -/

namespace DocSite

/-- What an anchor shows: text, or text set as code. -/
inductive Label
  | plain (text : String)
  | code (text : String)
deriving DecidableEq, Repr

def Label.html : Label → String
  | .plain text => Text.escape text
  | .code text => "<code>" ++ Text.escape text ++ "</code>"

/-- Whether an address leaves the site: it begins with a scheme and two slashes,
with two slashes, or with the scheme of mail. -/
def isWebAddress (target : String) : Bool :=
  let letters := "abcdefghijklmnopqrstuvwxyz".toList
  let isLetter (c : Char) : Bool := letters.any fun letter => Text.matchesCaseless letter c
  let isSchemeChar (c : Char) : Bool := isLetter c || c.isDigit || "+.-".toList.contains c
  let afterScheme := match target.toList with
    | c :: cs =>
      if isLetter c then
        match cs.dropWhile isSchemeChar with
        | ':' :: rest => rest
        | _ => c :: cs
      else c :: cs
    | [] => []
  "//".toList.isPrefixOf afterScheme ||
    (Text.afterCaseless? "mailto:".toList target.toList).isSome

def anchor (url : String) (cssClass : Option String) (label : Label) : String :=
  let classText := match cssClass with
    | none | some "" => ""
    | some name => " class=\"" ++ Text.escape name ++ "\""
  "<a href=\"" ++ Text.escape url ++ "\"" ++ classText ++ ">" ++ label.html ++ "</a>"

def missingTutorial (label : Label) : String :=
  "<em class=\"disabled\">Tutorial: " ++ label.html ++ "</em>"

/-- An address with its fragment replaced. -/
def withFragment (url : String) : Option String → String
  | none | some "" => url
  | some fragment => (splitFragment url).1 ++ "#" ++ fragment

namespace LinkRegistry

variable (r : LinkRegistry)

/-- The address that a name leads to. -/
def targetUrl? (name : String) : Option String :=
  (r.urlFor name).or (if isWebAddress name then some name else none)

/-- A link to a name, which shows a label. -/
def linkTo (name : String) (label : Label) (cssClass fragment : Option String) : String :=
  match r.targetUrl? name with
  | none => label.html
  | some url => anchor (withFragment url fragment) cssClass label

/-- A link to a tutorial. One that is not there is shown as disabled. -/
def tutorialLink (name : String) (label : Label) : String :=
  match r.tutorialUrl name with
  | none => missingTutorial label
  | some url => anchor url none label

/-- A link to a target, which is a registered name, or one with a hash and a
fragment after it. -/
def linkTarget (target : String) (label : Label) : String :=
  let whole := r.linkTo target label none none
  if (r.urlFor target).isSome then whole
  else
    let (fragment, before) := target.toList.reverse.span (· != '#')
    match before with
    | _ :: name =>
      let name := String.ofList name.reverse
      if (r.urlFor name).isSome then r.linkTo name label none (some (.ofList fragment.reverse))
      else whole
    | [] => whole

end LinkRegistry

end DocSite

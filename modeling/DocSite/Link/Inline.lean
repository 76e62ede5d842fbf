import DocSite.Link.Anchor
import DocSite.Text.Blank
import DocSite.Text.Reference

/-! Inline links. A text is cut into characters and tags; a tag is braces around a
name with an at sign, blanks and a body, and may have a label in brackets before
it. The body is a target, and after a bar or else after the first space a text to
show. Since the text is markup, labels and bodies are read without their
character references and are escaped again when the link is made. -/

namespace DocSite

inductive InlineTag
  | link
  | linkcode
  | linkplain
  | tutorial
deriving DecidableEq, Repr

namespace InlineTag

def all : List InlineTag := [link, linkcode, linkplain, tutorial]

def label : InlineTag → String
  | .link => "link"
  | .linkcode => "linkcode"
  | .linkplain => "linkplain"
  | .tutorial => "tutorial"

end InlineTag

/-- An inline link as it is written: its tag, what stands in brackets before it,
and what stands between the blanks after the tag and the closing brace. -/
structure InlineLink where
  tag : InlineTag
  caption : Option String
  body : String
deriving DecidableEq, Repr

namespace InlineLink

/-- The tag whose name the text begins with, a blank being next, and how many
characters the name and all blanks after it have. -/
def tagAt? (cs : List Char) : Option (InlineTag × Nat) :=
  InlineTag.all.findSome? fun tag =>
    match tag.label.toList.isPrefixOf? cs with
    | some rest =>
      let blanks := rest.takeWhile Text.isBlank
      if blanks.isEmpty then none else some (tag, tag.label.length + blanks.length)
    | none => none

/-- The braces that the text begins with, and how many characters they have. -/
def bracesAt? (caption : Option String) : List Char → Option (InlineLink × Nat)
  | '\x7b' :: '@' :: cs =>
    match tagAt? cs with
    | some (tag, size) =>
      let body := (cs.drop size).takeWhile (· != '\x7d')
      if (cs.drop (size + body.length)).isEmpty then none
      else some (⟨tag, caption, .ofList body⟩, size + body.length + 3)
    | none => none
  | _ => none

/-- The inline link that the text begins with, and how many characters it has. -/
def at? (cs : List Char) : Option (InlineLink × Nat) :=
  match cs with
  | '[' :: rest =>
    let caption := rest.takeWhile (· != ']')
    if caption.isEmpty then none
    else (bracesAt? (some (.ofList caption)) (rest.drop (caption.length + 1))).map
      fun (link, size) => (link, size + caption.length + 2)
  | cs => bracesAt? none cs

/-- A part of a text: a character, or an inline link. -/
inductive Part
  | char (c : Char)
  | link (link : InlineLink)
deriving DecidableEq, Repr

/-- The parts of a text whose first `skipped` characters are done. -/
def partsFrom (skipped : Nat) : List Char → List Part
  | [] => []
  | c :: cs =>
    match skipped with
    | n + 1 => partsFrom n cs
    | 0 => match at? (c :: cs) with
      | some (link, size) => .link link :: partsFrom (size - 1) cs
      | none => .char c :: partsFrom 0 cs

/-- A text cut into characters and inline links. -/
def parts (cs : List Char) : List Part := partsFrom 0 cs

/-- The target of a body and the text after it, both without blanks at their ends. The
body is read without its character references. -/
def splitBody (body : String) : String × String :=
  let cs := Text.trimBoth body.toList
  let separator := if cs.contains '|' then '|' else ' '
  let (target, rest) := cs.span (· != separator)
  (.ofList (Text.trimBoth target), .ofList (Text.trimBoth rest.tail))

/-- The inline link without the character references of its caption and its body. -/
def plain (l : InlineLink) : Except Text.DigitExcess InlineLink := do
  let body ← Text.unescape l.body
  match l.caption with
  | some caption => return ⟨l.tag, some (← Text.unescape caption), body⟩
  | none => return ⟨l.tag, none, body⟩

/-- The text that a plain inline link asks to be shown, if it asks for one. -/
def shownText? (l : InlineLink) : Option String :=
  (l.caption.filter (· != "")).or (some (splitBody l.body).2) |>.filter (· != "")

def plainHtml (r : LinkRegistry) (l : InlineLink) : String :=
  let target := (splitBody l.body).1
  let text := l.shownText?.getD target
  match l.tag with
  | .tutorial => r.tutorialLink target (.plain text)
  | .linkcode => r.linkTarget target (.code text)
  | .link | .linkplain => r.linkTarget target (.plain text)

def html (r : LinkRegistry) (l : InlineLink) : Except Text.DigitExcess String :=
  l.plain.map (plainHtml r)

def Part.html (r : LinkRegistry) : Part → Except Text.DigitExcess String
  | .char c => .ok (.singleton c)
  | .link l => l.html r

end InlineLink

/-- A text with its inline links replaced by markup. -/
def LinkRegistry.resolveLinks (r : LinkRegistry) (text : String) :
    Except Text.DigitExcess String :=
  ((InlineLink.parts text.toList).mapM (InlineLink.Part.html r)).map String.join

namespace InlineLink

@[simp] theorem partsFrom_nil (n : Nat) : partsFrom n [] = [] := rfl

@[simp] theorem parts_nil : parts [] = [] := rfl

end InlineLink

end DocSite

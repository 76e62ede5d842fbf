import DocSite.Markdown.Destination
import DocSite.Markdown.Emphasis
import DocSite.Text.ReferenceTable

/-! The parts of a line. Each kind of part has a pattern for its beginning, and a way to read
it there: it may be an element, text that is not looked through again, or nothing. A part
that was read is set aside, and its mark stands for it. -/

namespace DocSite.Markdown

/-- What is read where a part of a line may begin: no part, so that the next place is
tried; nothing up to a position; or a part from one position to another. -/
inductive Span
  | absent
  | skipped (stop : Nat)
  | part (aside : Aside) (start stop : Nat)
deriving DecidableEq, Repr

structure SpanRule where
  pattern : Pattern
  read : Pattern.Found → PageM Span

namespace Span

/-- A part that is an element, at the place that was found. -/
def ofElement (f : Pattern.Found) (e : Element) : PageM Span :=
  return .part (.element (← PageM.add e)) f.start f.stop

/-- A part that is text, at the place that was found. -/
def ofText (f : Pattern.Found) (cs : List Char) : Span := .part (.text cs) f.start f.stop

end Span

/-! ### Code and escapes -/

/-- Pairs of backslashes before backquotes are single ones, and text between backquotes is
code. -/
def codeSpan : SpanRule where
  pattern := .ofText
    "(?s)(?:(?<!\\\\)((?:\\\\\x7b2\x7d)+)(?=`+)|(?<!\\\\)(`+)(.+?)(?<!`)\\2(?!`))"
  read f :=
    match f.group? 3 with
    | some code =>
      Span.ofElement f
        { Element.ofTag "code" with text := .done (escapeCode (Text.trimBoth code)) }
    | none => return .ofText f <|
      (List.replicate ((f.group 1).length / 2) (charMark '\\')).flatten

def escapableChars : List Char := "\\`*_\x7b\x7d[]()>#+-.!|".toList

/-- A backslash before a character that it escapes. -/
def escapedChar : SpanRule where
  pattern := .ofText "(?s)\\\\(.)"
  read f := return match f.group 1 with
    | [c] => if escapableChars.contains c then .ofText f (charMark c) else .skipped f.stop
    | _ => .skipped f.stop

/-! ### Links and images -/

def linkStart : Pattern := .ofText "(?s)(?<!\\!)\\["

def imageStart : Pattern := .ofText "(?s)\\!\\["

/-- A title as it is shown: without the quotes around it, and in one line. -/
def shownTitle (cs : List Char) : List Char :=
  let isQuote := fun quote => cs.head? == some quote && cs.getLast? == some quote
  let cs := if isQuote '"' || isQuote '\'' then innerOf cs else cs
  cs.map fun c => if Text.isBlank c then ' ' else c

/-- An attribute that an element has if there is a value for it. -/
def optional (name : String) (value? : Option (List Char)) : List (String × List Char) :=
  (value?.map fun value => (name, value)).toList

/-- How the element of a link or an image is made of its text, address and title. -/
abbrev LinkElement := Page → List Char → List Char → Option (List Char) → Element

def linkElement : LinkElement := fun _ text address title? =>
  ⟨"a", ("href", address) :: optional "title" title?, .plain text, [], .none⟩

def imageElement : LinkElement := fun page text address title? =>
  ⟨"img", ("src", address) :: optional "title" title? ++ [("alt", page.expand text)],
    .none, [], .none⟩

/-- A link or an image whose text is followed by its destination. -/
def directSpan (pattern : Pattern) (element : LinkElement) : SpanRule where
  pattern
  read f := do
    let some (text, stop) := bracketed? f.text f.stop | return .absent
    let some destination := Destination.read? f.text stop | return .absent
    let page ← get
    let title? := destination.title?.map fun title =>
      shownTitle (page.expand (Text.trimBoth title))
    let address := Text.trimBoth (page.expand destination.address)
    let i ← PageM.add (element page text address title?)
    return .part (.element i) f.start destination.stop

/-- The name of a reference in brackets: 1 is the name. -/
def referencePattern : Pattern := .ofText "(?s)\\s?\\[([^\\]]*)\\]"

/-- A text with one space for each run of blanks. -/
def withSingleSpaces (cs : List Char) : List Char :=
  (Pattern.ofText "\\s+").replaceAll (fun _ => [' ']) cs

/-- A link or an image whose text is followed by the name of a reference, or is itself the
name of one. -/
def referenceSpan (pattern : Pattern) (isShort : Bool) (element : LinkElement) : SpanRule where
  pattern
  read f := do
    let some (text, stop) := bracketed? f.text f.stop | return .absent
    let named? := if isShort then some (text, stop) else
      (referencePattern.foundAt? f.text stop).map fun found =>
        (if (found.group 1).isEmpty then text else found.group 1, found.stop)
    let some (name, stop) := named? | return .absent
    let name := String.ofList (withSingleSpaces (referenceName name).toList)
    let page ← get
    match page.targets.get? name with
    | none => return .skipped stop
    | some target =>
      let title? := if target.title.isEmpty then none else some target.title
      let i ← PageM.add (element page text target.address title?)
      return .part (.element i) f.start stop

/-! ### Addresses -/

/-- An address between angles, which links to itself. -/
def addressSpan : SpanRule where
  pattern := .ofText "(?s)<((?:[Ff]|[Hh][Tt])[Tt][Pp][Ss]?://[^<>]*)>"
  read f := do
    let address := f.group 1
    Span.ofElement f
      ⟨"a", [("href", (← get).expand address)], .done address, [], .none⟩

def codeReference (c : Char) : List Char := ampersandMark ++ '#' :: digitsOf c.toNat ++ [';']

/-- A character as a reference, by its name if it has one. -/
def charReference (c : Char) : List Char :=
  match Text.writtenNames.lookup c.toNat with
  | some name => ampersandMark ++ name.toList ++ [';']
  | none => codeReference c

/-- A text without something that it may begin with. -/
def withoutLeading (lead cs : List Char) : List Char :=
  if lead.isPrefixOf cs then cs.drop lead.length else cs

/-- A mail address between angles, written so that it is not easily read off. -/
def mailSpan : SpanRule where
  pattern := .ofText "(?s)<([^<> !]+@[^@<> ]+)>"
  read f := do
    let scheme := "mailto:".toList
    let address := withoutLeading scheme ((← get).expand (f.group 1))
    Span.ofElement f ⟨"a", [("href", (scheme ++ address).flatMap codeReference)],
      .done (address.flatMap charReference), [], .none⟩

/-! ### Breaks, markup and plain signs -/

/-- Two spaces at the end of a line break it. -/
def breakSpan : SpanRule where
  pattern := .ofText "(?s)  \\n"
  read f := Span.ofElement f (.ofTag "br")

/-- Markup in a line, which is set aside as it is written. -/
def markupSpan (pattern : Pattern) : SpanRule where
  pattern
  read f := do
    let markup := restoreChars ((← get).expandMarkup (f.group 1))
    return .ofText f (← PageM.keep markup)

def tagSpan : SpanRule :=
  markupSpan <| .ofText <|
    "(?s)(<(\\/?[a-zA-Z][^<>@ ]*( [^<>]*)?|!--(?:(?!<!--|-->).)*--)>)"

def referenceMarkSpan : SpanRule :=
  markupSpan <| .ofText "(?s)(&(?:\\#[0-9]+|\\#x[0-9a-fA-F]+|[0-9a-zA-Z]+);)"

/-- Signs of emphasis between blanks, which emphasize nothing. -/
def looseSignsSpan : SpanRule where
  pattern := .ofText "(?s)((^|(?<=\\s))(\\*\x7b1,3\x7d|_\x7b1,3\x7d)(?=\\s|$))"
  read f := return .ofText f f.whole

def emphasisSpan (sign : Char) (pattern : Pattern) (stresses : List Stress) : SpanRule where
  pattern
  read f := do
    match ← readEmphasis sign f.text f.start stresses with
    | some (i, stop) => return .part (.element i) f.start stop
    | none => return .absent

/-- The kinds of parts, in the order in which a line is looked through for them. -/
def spanRules : List SpanRule :=
  [codeSpan, escapedChar, referenceSpan linkStart false linkElement,
   directSpan linkStart linkElement, directSpan imageStart imageElement,
   referenceSpan imageStart false imageElement, referenceSpan linkStart true linkElement,
   referenceSpan imageStart true imageElement, addressSpan, mailSpan, breakSpan, tagSpan,
   referenceMarkSpan, looseSignsSpan,
   emphasisSpan '*' (.ofText "\\*") asteriskStresses,
   emphasisSpan '_' (.ofText "_") underscoreStresses]

/-- The first part of a kind in a line, from a position on. -/
def SpanRule.first (rule : SpanRule) (text : Array Char) : Nat → Nat → PageM Span
  | 0, _ => return .absent
  | fuel + 1, start => do
    match rule.pattern.find? text start with
    | none => return .absent
    | some f =>
      match ← rule.read f with
      | .absent => rule.first text fuel f.stop
      | span => return span

@[simp] theorem withoutLeading_nil (cs : List Char) : withoutLeading [] cs = cs := by
  simp [withoutLeading]

end DocSite.Markdown

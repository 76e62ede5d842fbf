import DocSite.Dict
import DocSite.Markdown.Serializer

/-! A page while it is put together: its elements, the targets that are defined in it for
references, and what is set aside. Markup that is set aside stays as it is written until the
page is done. Parts of a line are set aside while the line is read, and come back as the
elements or the text that they are. -/

namespace DocSite.Markdown

/-- Where a reference leads: an address, and the title of the link. -/
structure Target where
  address : List Char
  title : List Char
deriving DecidableEq, Repr

/-- The name of a reference: its small and its capital letters are alike. -/
def referenceName (cs : List Char) : String := Text.lower (.ofList cs)

/-- A part of a line that is set aside. -/
inductive Aside
  | text (cs : List Char)
  | element (i : Nat)
deriving DecidableEq, Repr

structure Page where
  elements : Elements
  targets : Dict String Target
  asides : Array Aside
  kept : Kept

abbrev PageM := StateM Page

namespace Page

/-- A page that is one empty element, with markup that is set aside. -/
def start (kept : Kept) : Page := ⟨#[.ofTag "div"], [], #[], kept⟩

/-- The place of the element that holds all others. -/
def root : Nat := 0

end Page

/-- The mark of a part of a line. Its number has four digits or more. -/
def spanMark (n : Nat) : List Char :=
  let digits := digitsOf n
  mark spanWord (List.replicate (4 - digits.length) '0' ++ digits)

/-- The mark of a part of a line: 1 is its number. -/
def spanMarkPattern : Pattern := .ofText "\\x02klzzwxh:([0-9]+)\\x03"

namespace Page

/-- The part of a line that a mark stands for. -/
def aside? (page : Page) (f : Pattern.Found) : Option Aside :=
  (String.ofList (f.group 1)).toNat?.bind fun n => page.asides[n]?

/-- A text with something else for each mark of a part of a line. -/
def expandBy (page : Page) (onText : List Char → List Char) (onElement : Nat → List Char)
    (cs : List Char) : List Char :=
  spanMarkPattern.replaceAll (fun f =>
    match page.aside? f with
    | some (.text aside) => onText aside
    | some (.element i) => onElement i
    | none => f.whole) cs

/-- A text with the text of each part of a line that is set aside. -/
def expand (page : Page) (cs : List Char) : List Char :=
  page.expandBy id (fun i => page.elements.innerText page.elements.size i) cs

/-- A text with the markup of each part of a line that is set aside. -/
def expandMarkup (page : Page) (cs : List Char) : List Char :=
  page.expandBy ('\\' :: ·) (fun i => page.elements.markup page.elements.size i) cs

end Page

namespace PageM

def element (i : Nat) : PageM Element := return (← get).elements.element i

def tagOf (i : Nat) : PageM String := return (← element i).tag

def lastChild? (i : Nat) : PageM (Option Nat) := return (← element i).children.getLast?

def change (i : Nat) (f : Element → Element) : PageM Unit :=
  modify fun page => { page with elements := page.elements.change i f }

/-- Adds an element that is in no other yet. -/
def add (e : Element) : PageM Nat := do
  let page ← get
  let (i, elements) := page.elements.add e
  set { page with elements }
  return i

/-- Puts elements into another, after a number of its children. -/
def insert (parent count : Nat) (places : List Nat) : PageM Unit :=
  change parent fun e =>
    { e with children := e.children.take count ++ places ++ e.children.drop count }

/-- Puts an element after the children of another. -/
def append (parent i : Nat) : PageM Unit :=
  change parent fun e => { e with children := e.children ++ [i] }

def addLast (parent : Nat) (e : Element) : PageM Nat := do
  let i ← add e
  append parent i
  return i

def addFirst (parent : Nat) (e : Element) : PageM Nat := do
  let i ← add e
  change parent fun e => { e with children := i :: e.children }
  return i

def define (name : String) (target : Target) : PageM Unit :=
  modify fun page => { page with targets := page.targets.put name target }

/-- Sets markup aside as it is written, and gives its mark. -/
def keep (markup : List Char) : PageM (List Char) := do
  let page ← get
  let (aside, kept) := page.kept.put markup
  set { page with kept }
  return aside

/-- Sets a part of a line aside, and gives its mark. -/
def setAside (aside : Aside) : PageM (List Char) := do
  let page ← get
  set { page with asides := page.asides.push aside }
  return spanMark page.asides.size

end PageM

end DocSite.Markdown

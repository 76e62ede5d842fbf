import DocSite.Markdown.Span

/-! Lines. The text of each element is looked through for one kind of part after the other;
each part that is found is set aside, and what is left, with the marks of the parts, is
looked through for the kinds after it. Then the parts are put in place of their marks: text
as it is, and elements as children of the element whose text it was. -/

namespace DocSite.Markdown

/-- The bound on the steps of looking through a text. -/
def stepsFor (cs : List Char) : Nat := 16 * Nat.pow (cs.length + 2) 3

/-- A text looked through for parts, the first kind from a position on, with the marks of
the parts that were found. The texts of an element that is found are looked through for the
kinds after its own, and those after the elements in it also for its own. -/
def setSpansAside : Nat → List SpanRule → Nat → List Char → PageM (List Char)
  | 0, _, _, cs => return cs
  | _ + 1, [], _, cs => return cs
  | fuel + 1, rule :: later, start, cs => do
    let text := cs.toArray
    match ← rule.first text (text.size + 1) start with
    | .absent => setSpansAside fuel later 0 cs
    | .skipped stop => setSpansAside fuel (rule :: later) stop cs
    | .part aside start stop =>
      if let .element i := aside then
        let e ← PageM.element i
        unless e.text.finished do
          for j in i :: e.children do
            let inner ← PageM.element j
            unless inner.text.isEmpty || inner.text.finished do
              let cs ← setSpansAside fuel later 0 inner.text.chars
              PageM.change j fun e => { e with text := .plain cs }
            unless inner.tail.isEmpty || inner.tail.finished do
              let cs ← setSpansAside fuel (rule :: later) 0 inner.tail.chars
              PageM.change j fun e => { e with tail := .plain cs }
      let aside ← PageM.setAside aside
      let cs := (text.extract 0 start).toList ++ aside ++ (text.extract stop text.size).toList
      setSpansAside fuel (rule :: later) 0 cs

/-- A text looked through for all kinds of parts, unless it is finished. -/
def Words.read (w : Words) : PageM Words := do
  if w.finished then return w
  else return .plain (← setSpansAside (stepsFor w.chars) spanRules 0 w.chars)

/-- Text and elements that take the place of a text with marks: the text before the first
element, and each element. -/
structure Parts where
  lead : Words
  elements : List Nat
deriving DecidableEq, Repr

namespace Parts

/-- Adds text after the last of the parts. -/
def addText (p : Parts) (w : Words) : PageM Parts := do
  if w.isEmpty then return p
  match p.elements.getLast? with
  | none => return { p with lead := p.lead.append w }
  | some i =>
    PageM.change i fun e => { e with tail := e.tail.append w }
    return p

/-- A way to put the parts of a text in place of their marks. -/
abbrev Place := Words → PageM Parts

/-- Puts the parts of the texts of an element, and of the elements in it, in their places. -/
def placeWithin (place : Place) (i : Nat) : PageM Unit := do
  for j in i :: (← PageM.element i).children do
    let tail := (← PageM.element j).tail
    unless tail.isBlank do
      let parts ← place tail
      PageM.change j fun e => { e with tail := parts.lead }
      let siblings := (← PageM.element i).children
      PageM.insert i (if j == i then 0 else siblings.idxOf j + 1) parts.elements
    let text := (← PageM.element j).text
    unless text.isBlank do
      let parts ← place text
      PageM.change j fun e => { e with text := parts.lead }
      PageM.insert j 0 parts.elements

/-- Puts the parts for marks in place, from a position of a text on. -/
def placeFrom (place : Place) (text : Array Char) (finished : Bool) (start : Nat) (p : Parts) :
    List Pattern.Found → PageM Parts
  | [] => p.addText ⟨(text.extract start text.size).toList, finished⟩
  | f :: later => do
    match (← get).aside? f with
    | none => placeFrom place text finished start p later
    | some aside =>
      let p ← p.addText (.plain (text.extract start f.start).toList)
      match aside with
      | .text cs =>
        let p ← p.addText (.plain cs)
        placeFrom place text finished f.stop p later
      | .element i =>
        placeWithin place i
        placeFrom place text finished f.stop { p with elements := p.elements ++ [i] } later

/-- The parts of a text in place of their marks. The marks in what is set aside are no deeper
than the fuel. -/
def place : Nat → Place
  | 0, w => return ⟨w, []⟩
  | fuel + 1, w => do
    let text := w.chars.toArray
    placeFrom (place fuel) text w.finished 0 ⟨.none, []⟩ (spanMarkPattern.findAll text)

/-- The parts of a text that is not looked through yet. -/
def ofWords (w : Words) : PageM Parts := do
  let w ← w.read
  place ((← get).asides.size + 1) w

end Parts

/-- Goes through the children of an element from one on, those that come in on the way
included. Reads the text of each and the text after it; the elements of the latter come in
after the child. Gives the elements that are to be gone through next, and each child with
the elements of its text. -/
def readChildren (i : Nat) : Nat → Nat → PageM (List Nat × List (Nat × List Nat))
  | 0, _ => return ([], [])
  | fuel + 1, count => do
    let some child := (← PageM.element i).children[count]? | return ([], [])
    let e ← PageM.element child
    let mut inner : List Nat := []
    unless e.text.isEmpty || e.text.finished do
      let parts ← Parts.ofWords e.text
      PageM.change child fun e => { e with text := parts.lead }
      inner := parts.elements
    unless e.tail.isEmpty do
      let parts ← Parts.ofWords e.tail
      PageM.change child fun e => { e with tail := parts.lead }
      PageM.insert i (count + 1) parts.elements
    let own := if (← PageM.element child).children.isEmpty then [] else [child]
    let (next, inserts) ← readChildren i fuel (count + 1)
    return (inner ++ own ++ next,
      if inner.isEmpty then inserts else (child, inner) :: inserts)

def readLines : Nat → List Nat → PageM Unit
  | 0, _ => return
  | _ + 1, [] => return
  | fuel + 1, i :: later => do
    let (next, inserts) ← readChildren i fuel 0
    for (child, inner) in inserts do
      PageM.insert child 0 inner
    readLines fuel (later ++ next)

@[simp] theorem readLines_nil (fuel : Nat) : readLines fuel [] = pure () := by
  cases fuel <;> rfl

end DocSite.Markdown

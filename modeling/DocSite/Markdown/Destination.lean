import DocSite.Markdown.Element
import DocSite.Pattern.Found

/-! What follows the opening bracket of a link: the text of the link up to the bracket that
closes it, and then in round brackets the address and perhaps a title. The address may hold
brackets in pairs, and the title quotes of the other kind. A quote that no title ends with is
part of the address. -/

namespace DocSite.Markdown

/-- The text up to the bracket that closes one that is open before a position, and the
position after it. `depth` is the number of brackets that are open. -/
def bracketedFrom : Nat → Nat → List Char → Option (List Char × Nat)
  | _, _, [] => none
  | depth, position, c :: cs =>
    let depth := if c == ']' then depth - 1 else if c == '[' then depth + 1 else depth
    if depth == 0 then some ([], position + 1)
    else (bracketedFrom depth (position + 1) cs).map fun (text, stop) => (c :: text, stop)

/-- The text in brackets whose first one ends at a position. -/
def bracketed? (text : Array Char) (start : Nat) : Option (List Char × Nat) :=
  bracketedFrom 1 start (text.extract start text.size).toList

/-- Where a link leads, as it is written: the address, the title, and the position after
them. -/
structure Destination where
  address : List Char
  title? : Option (List Char)
  stop : Nat
deriving DecidableEq, Repr

/-- A quote in a destination: the sign, and the positions after the quotes that begin and
end it. -/
structure TitleQuote where
  sign : Char
  start : Nat
  stop? : Option Nat
deriving DecidableEq, Repr

/-- What is known of a destination up to a character of it. `depth` is the number of open
brackets, and `spare` that of those whose closing would end the destination if no title
does; `fallback?` is the position after it then. `title?` is the first quote of all,
`other?` the first of the other kind. `last?` is the last character that is no space. -/
structure DestinationState where
  depth : Nat
  spare : Nat
  fallback? : Option Nat
  title? : Option TitleQuote
  other? : Option TitleQuote
  last? : Option Char
deriving DecidableEq, Repr

namespace DestinationState

def start : DestinationState := ⟨1, 1, none, none, none, none⟩

/-- Whether a quote is over, and its sign is the last character. -/
def endsWith (s : DestinationState) (q : TitleQuote) : Bool :=
  q.stop?.isSome && s.last? == some q.sign

/-- The quote that ends a destination after the last character, if there is one. -/
def ending? (s : DestinationState) : Option TitleQuote :=
  (s.title?.filter s.endsWith).or (s.other?.filter s.endsWith)

def quote (s : DestinationState) (position : Nat) (c : Char) : DestinationState :=
  match s.title? with
  | none =>
    { s with spare := s.depth, depth := 1, title? := some ⟨c, position + 1, none⟩ }
  | some title =>
    if c == title.sign then
      { s with title? := some { title with stop? := some (position + 1) } }
    else
      match s.other? with
      | none => { s with other? := some ⟨c, position + 1, none⟩ }
      | some other =>
        if c == other.sign then
          { s with other? := some { other with stop? := some (position + 1) } }
        else s

def step (s : DestinationState) (position : Nat) (c : Char) : DestinationState :=
  if c == '(' then
    if s.title?.isNone then { s with depth := s.depth + 1 } else { s with spare := s.spare - 1 }
  else if c == ')' then
    if s.ending?.isSome then { s with depth := 0 }
    else if s.title?.isNone then { s with depth := s.depth - 1 }
    else if s.spare == 1 then { s with spare := 0, fallback? := some (position + 1) }
    else { s with spare := s.spare - 1 }
  else if c == '\'' || c == '"' then s.quote position c
  else s

/-- Reads a destination up to its end; gives the position after what is read. -/
def read (s : DestinationState) (position : Nat) : List Char → DestinationState × Nat
  | [] => (s, position)
  | c :: cs =>
    let s := s.step position c
    if s.depth == 0 then (s, position + 1)
    else read (if c == ' ' then s else { s with last? := some c }) (position + 1) cs

end DestinationState

/-- A destination begins with a bracket, after which it may be written plainly: 1 is an
address between angles and 2 is a title. -/
def plainDestinationPattern : Pattern := .ofText <|
  "(?s)\\(\\s*(?:(<[^<>]*>)\\s*(?:('[^']*'|\"[^\"]*\")\\s*)?\\))?"

/-- A text without its first and its last character. -/
def innerOf (cs : List Char) : List Char := cs.tail.dropLast

/-- The destination that begins at a position. If a quote takes all brackets that would end
it, the last character of the text is left out of it, and the one before it is lost. -/
def Destination.read? (text : Array Char) (start : Nat) : Option Destination :=
  (plainDestinationPattern.foundAt? text start).bind fun f =>
    match f.group? 1 with
    | some address => some ⟨innerOf address, (f.group? 2).map innerOf, f.stop⟩
    | none =>
      let (s, stop) := DestinationState.start.read f.stop
        (text.extract f.stop text.size).toList
      let slice (start stop : Nat) := (text.extract start stop).toList
      if s.depth != 0 && s.spare != 0 then none
      else
        let fellBack := s.depth != 0
        let stop := if fellBack then s.fallback?.getD (text.size - 1) else stop
        match s.ending?, fellBack && s.fallback?.isNone with
        | some quote, _ =>
          some ⟨slice f.stop (quote.start - 1),
            some (slice quote.start (quote.stop?.getD 0 - 1)), stop⟩
        | none, true => some ⟨slice f.stop (text.size - 2), none, stop⟩
        | none, false => some ⟨slice f.stop (stop - 1), none, stop⟩

@[simp] theorem bracketedFrom_nil (depth position : Nat) :
    bracketedFrom depth position [] = none := by
  cases depth <;> rfl

end DocSite.Markdown

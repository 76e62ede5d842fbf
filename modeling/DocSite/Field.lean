import DocSite.Datum
import DocSite.Text.Blank
import DocSite.Text.Case
import DocSite.Text.Reference
import DocSite.Text.Surrogate

/-! Reading typed fields out of structured data. Reading is lenient where a value
has one obvious meaning: a whole floating number is a whole number, a text may
spell a truth value or a number. What does not fit is a misfit, which names the
place of the value and the cause. -/

namespace DocSite

/-- Why a value does not fit a field. -/
inductive MisfitCause
  | missing
  | notText
  | notUnicode
  | notTruth
  | unreadableTruth
  | notWhole
  | unreadableWhole
  | fractional
  | tooLarge
  | notFinite
  | notList
  | notRecord (record : String)
  | unknownField
  | refused (reason : String)
deriving DecidableEq, Repr

def MisfitCause.message : MisfitCause → String
  | .missing => "Field required"
  | .notText => "Input should be a valid string"
  | .notUnicode =>
    "Input should be a valid string, unable to parse raw data as a unicode string"
  | .notTruth => "Input should be a valid boolean"
  | .unreadableTruth => "Input should be a valid boolean, unable to interpret input"
  | .notWhole => "Input should be a valid integer"
  | .unreadableWhole =>
    "Input should be a valid integer, unable to parse string as an integer"
  | .fractional => "Input should be a valid integer, got a number with a fractional part"
  | .tooLarge => "Unable to parse input string as an integer, exceeded maximum size"
  | .notFinite => "Input should be a finite number"
  | .notList => "Input should be a valid list"
  | .notRecord record => "Input should be a valid dictionary or instance of " ++ record
  | .unknownField => "Extra inputs are not permitted"
  | .refused reason => "Value error, " ++ reason

/-- A value that does not fit, with the fields and indices that lead to it. -/
structure Misfit where
  place : List String
  cause : MisfitCause
deriving DecidableEq, Repr

namespace Misfit

/-- The misfit as seen from one field further out. -/
def within (outer : String) (m : Misfit) : Misfit := { m with place := outer :: m.place }

/-- The place, with a point between its parts. -/
def location (m : Misfit) : String := ".".intercalate m.place

end Misfit

namespace Field

abbrev Reader (α : Type) := Datum → Except Misfit α

def fail {α : Type} (cause : MisfitCause) : Except Misfit α := .error ⟨[], cause⟩

def text : Reader String
  | .text s => .ok s
  | _ => fail .notText

/-- Reads a value that may be null. -/
def optional {α : Type} (reader : Reader α) : Reader (Option α)
  | .null => .ok none
  | value => (reader value).map some

/-- Reads the items of a list that starts at an index. -/
def listItems {α : Type} (reader : Reader α) (index : Nat) : List Datum → Except Misfit (List α)
  | [] => .ok []
  | item :: items => do
    let first ← (reader item).mapError (Misfit.within (toString index))
    let rest ← listItems reader (index + 1) items
    return first :: rest

def list {α : Type} (reader : Reader α) : Reader (List α)
  | .list items => listItems reader 0 items
  | _ => fail .notList

/-- The spellings of a truth value. -/
def truthOfText? (s : String) : Option Bool :=
  let key := Text.lowerAscii s
  if ["0", "off", "f", "false", "n", "no"].contains key then some false
  else if ["1", "on", "t", "true", "y", "yes"].contains key then some true
  else none

/-- The whole numbers of 64 bits with a sign are below this in size. -/
def limit64 : Int := 0x8000000000000000

/-- Whether a whole number fits 64 bits with a sign. -/
def fits64 (n : Int) : Bool := -limit64 ≤ n && n < limit64

/-- The whole number that a floating one equals, which must fit 64 bits; the least
number of 64 bits is not taken from a floating one. -/
def wholeOfReal (x : Binary64) : Except Misfit Int :=
  match x with
  | .finite .. => match x.toInt? with
    | some n => if -limit64 < n && n < limit64 then .ok n else fail .tooLarge
    | none => fail .fractional
  | _ => fail .notFinite

/-- The truth value that a whole number stands for. -/
def truthOfWhole (n : Int) : Except Misfit Bool :=
  if n == 0 then .ok false else if n == 1 then .ok true else fail .unreadableTruth

/-- Reads a truth value, also from the numbers zero and one and from its spellings. -/
def truth : Reader Bool
  | .bool b => .ok b
  | .int n => if fits64 n then truthOfWhole n else fail .notTruth
  | .real x => match wholeOfReal x with
    | .ok n => truthOfWhole n
    | .error _ => fail .notTruth
  | .text s => match truthOfText? s with
    | some b => .ok b
    | none => fail .unreadableTruth
  | _ => fail .notTruth

/-- Blanks around a number in a text; the information separators are none of them. -/
def isNumberBlank (c : Char) : Bool := Text.isBlank c && !(0x1C ≤ c.toNat && c.toNat ≤ 0x1F)

/-- What follows leading zeros and the underscores among them, up to a digit, a sign or the
point, which keeps the character before it. Of zeros alone the last one stays. -/
def afterZeros? (last : Char) : List Char → Option (List Char)
  | [] => some [last]
  | c :: cs =>
    if c == '0' || c == '_' then afterZeros? c cs
    else if c.isDigit || c == '-' then some (c :: cs)
    else if c == '.' then some (last :: c :: cs)
    else none

/-- A spelling without the zeros that it begins with. It must begin with a digit or a
minus sign; zeros may also stand before the sign. -/
def withoutZeros? : List Char → Option (List Char)
  | [] => none
  | c :: cs =>
    if c == '0' then afterZeros? c cs
    else if c.isDigit || c == '-' then some (c :: cs)
    else none

/-- A spelling without a point that only zeros follow, and without its underscores, of
which no two may stand together and none at an end. -/
def withoutMarks? (cs : List Char) : Option (List Char) :=
  let (whole, point) := cs.span (· != '.')
  let zeros := point.drop 1
  if !point.isEmpty && (zeros.isEmpty || zeros.any (· != '0')) then none
  else if whole.head? == some '_' || whole.getLast? == some '_' ||
      (whole.zip whole.tail).contains ('_', '_') then none
  else some (whole.filter (· != '_'))

/-- The most characters that the spelling of a whole number may have in the end. -/
def spellingLimit : Nat := 4300

/-- The whole number that a text spells: a sign, digits, and a point followed by
zeros, of which the sign and the point may be missing. -/
def wholeOfText (s : String) : Except Misfit Int :=
  let cs := ((s.toList.dropWhile isNumberBlank).reverse.dropWhile isNumberBlank).reverse
  let unsigned? := match cs with
    | '+' :: '-' :: _ => none
    | '+' :: rest => some rest
    | cs => some cs
  match (unsigned?.bind withoutZeros?).bind withoutMarks? with
  | none => fail .unreadableWhole
  | some spelled =>
    let digits := if spelled.head? == some '-' then spelled.tail else spelled
    if digits.isEmpty || digits.any (!·.isDigit) then fail .unreadableWhole
    else if spellingLimit < spelled.length then fail .tooLarge
    else
      let n : Int := Text.digitsValue 10 digits
      .ok (if spelled.head? == some '-' then -n else n)

/-- Reads a whole number, also from a truth value, a floating number without
fraction and a text that spells it. -/
def whole : Reader Int
  | .bool b => .ok (if b then 1 else 0)
  | .int n => .ok n
  | .real x => wholeOfReal x
  | .text s => wholeOfText s
  | _ => fail .notWhole

/-- The value of a field, or a default when the field is absent. -/
def getD {α : Type} (record : Datum) (name : String) (reader : Reader α) (default : α) :
    Except Misfit α :=
  match record.field? name with
  | some value => (reader value).mapError (Misfit.within name)
  | none => .ok default

/-- The value of a field that must be there. -/
def get {α : Type} (record : Datum) (name : String) (reader : Reader α) : Except Misfit α :=
  match record.field? name with
  | some value => (reader value).mapError (Misfit.within name)
  | none => .error ⟨[name], .missing⟩

/-- Refuses a mapping of which a name holds a lone surrogate. -/
def checkNames : Datum → Except Misfit Unit
  | .dict entries =>
    if entries.all fun e => Text.isWhole e.1.display then .ok () else fail .notUnicode
  | _ => .ok ()

/-- The fields of a mapping whose names are not among the given ones. -/
def others (record : Datum) (names : List String) : List (String × Datum) :=
  match record with
  | .dict entries => (entries.map fun (key, value) => (key.display, value)).filter
      fun (name, _) => !names.contains name
  | _ => []

/-- A computation that gives a value gives one at each of its steps. -/
theorem exists_of_bind_eq_ok {α β : Type} {first : Except Misfit α}
    {rest : α → Except Misfit β} {result : β} (h : first >>= rest = .ok result) :
    ∃ value, first = .ok value ∧ rest value = .ok result := by
  cases first with
  | error misfit => contradiction
  | ok value => exact ⟨value, rfl, h⟩

@[simp] theorem text_text (s : String) : text (.text s) = .ok s := rfl

@[simp] theorem truth_bool (b : Bool) : truth (.bool b) = .ok b := rfl

end Field

end DocSite

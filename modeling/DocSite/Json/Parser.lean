import DocSite.Datum
import DocSite.Text.Reference
import DocSite.Text.Surrogate

/-! Reading JSON. The reader takes the grammar of the standard and the three
names of numbers that have no digits. Of entries with one key the last counts,
at the place of the first. Each way in which a text can fail to be JSON is a
fault of its own, and so is a whole number of too many digits; the reader reports
the first. -/

namespace DocSite.Json

inductive Fault
  | byteOrderMark
  | expectingValue
  | expectingComma
  | expectingColon
  | expectingName
  | unterminatedString
  | controlCharacter
  | badEscape
  | badCodeEscape
  | extraData
  | digits (excess : Text.DigitExcess)
deriving DecidableEq, Repr

def Fault.message : Fault → String
  | .byteOrderMark => "Unexpected UTF-8 BOM (decode using utf-8-sig)"
  | .expectingValue => "Expecting value"
  | .expectingComma => "Expecting ',' delimiter"
  | .expectingColon => "Expecting ':' delimiter"
  | .expectingName => "Expecting property name enclosed in double quotes"
  | .unterminatedString => "Unterminated string starting at"
  | .controlCharacter => "Invalid control character at"
  | .badEscape => "Invalid \\escape"
  | .badCodeEscape => "Invalid \\uXXXX escape"
  | .extraData => "Extra data"
  | .digits excess => excess.message

def isSpace (c : Char) : Bool := c == ' ' || c == '\t' || c == '\n' || c == '\r'

def skipSpace (cs : List Char) : List Char := cs.dropWhile isSpace

/-- The character of an escape other than by code. -/
def escapedChar? : Char → Option Char
  | '"' => some '"'
  | '\\' => some '\\'
  | '/' => some '/'
  | 'b' => some '\x08'
  | 'f' => some '\x0c'
  | 'n' => some '\n'
  | 'r' => some '\r'
  | 't' => some '\t'
  | _ => none

/-- The code of four hexadecimal digits. A character has to come after them,
since a string ends with its quote. -/
def codeUnit : List Char → Except Fault (Nat × List Char)
  | a :: b :: c :: d :: e :: rest =>
    let digits := [a, b, c, d]
    if digits.all fun x => (Text.digitValue? 16 x).isSome then
      .ok (Text.digitsValue 16 digits, e :: rest)
    else .error .badCodeEscape
  | _ => .error .badCodeEscape

/-- The second half of a surrogate pair, if one is written next. -/
def lowSurrogate? : List Char → Except Fault (Option (Nat × List Char))
  | '\\' :: 'u' :: cs =>
    if cs.length < 5 then .ok none
    else match codeUnit cs with
      | .error fault => .error fault
      | .ok (low, rest) =>
        if 0xDC00 ≤ low && low ≤ 0xDFFF then .ok (some (low, rest)) else .ok none
  | _ => .ok none

/-- The character of an escape by code, whose first unit is `unit`. Half of a pair is read as it
stands, with the other half or without. -/
def charOfUnit (unit : Nat) (cs : List Char) : Except Fault (Char × List Char) :=
  if 0xD800 ≤ unit && unit ≤ 0xDBFF then
    match lowSurrogate? cs with
    | .error fault => .error fault
    | .ok (some (low, rest)) =>
      .ok (Char.ofNat (0x10000 + (unit - 0xD800) * 0x400 + (low - 0xDC00)), rest)
    | .ok none => .ok (Text.charOfCode unit, cs)
  else .ok (Text.charOfCode unit, cs)

/-- The rest of a string whose opening quote is read; `read` holds the
characters so far in reverse order. -/
def stringRest (read : List Char) : Nat → List Char → Except Fault (String × List Char)
  | 0, _ => .error .unterminatedString
  | _, [] => .error .unterminatedString
  | fuel + 1, c :: cs =>
    if c == '"' then .ok (.ofList read.reverse, cs)
    else if c == '\\' then
      match cs with
      | [] => .error .unterminatedString
      | 'u' :: rest => do
        let (unit, rest) ← codeUnit rest
        let (ch, rest) ← charOfUnit unit rest
        stringRest (ch :: read) fuel rest
      | e :: rest => match escapedChar? e with
        | some ch => stringRest (ch :: read) fuel rest
        | none => .error .badEscape
    else if c.toNat < 0x20 then .error .controlCharacter
    else stringRest (c :: read) fuel cs

def string (cs : List Char) : Except Fault (String × List Char) := stringRest [] (cs.length + 1) cs

/-- The digits at the start of a text and what follows them. -/
def digits (cs : List Char) : List Char × List Char := cs.span Char.isDigit

/-- The fraction at the start of a text, which has at least one digit. -/
def fraction (cs : List Char) : Option (List Char × List Char) :=
  match cs with
  | '.' :: rest => let (ds, rest) := digits rest; if ds.isEmpty then none else some (ds, rest)
  | _ => none

/-- The exponent at the start of a text, which has at least one digit. -/
def exponent (cs : List Char) : Option (Int × List Char) :=
  match cs with
  | e :: rest =>
    if e == 'e' || e == 'E' then
      let (negative, rest) := match rest with
        | '-' :: rest => (true, rest)
        | '+' :: rest => (false, rest)
        | rest => (false, rest)
      let (ds, rest) := digits rest
      if ds.isEmpty then none
      else
        let n : Int := Text.digitsValue 10 ds
        some (if negative then -n else n, rest)
    else none
  | [] => none

/-- A number whose sign is read. It is whole if it has neither fraction nor exponent. -/
def unsignedNumber (negative : Bool) (cs : List Char) : Except Fault (Datum × List Char) :=
  let (ds, rest) := match cs with
    | '0' :: rest => (['0'], rest)
    | cs => digits cs
  if ds.isEmpty then .error .expectingValue
  else
    let frac := fraction rest
    let rest := (frac.map (·.2)).getD rest
    let power := exponent rest
    let rest := (power.map (·.2)).getD rest
    if frac.isNone && power.isNone then do
      let n : Int ← (Text.decimalValue ds).mapError .digits
      return (.int (if negative then -n else n), rest)
    else
      let places := (frac.map (·.1)).getD []
      let shift := (power.map (·.1)).getD 0
      .ok (.real (.ofDecimal negative (Text.digitsValue 10 (ds ++ places))
        (shift - places.length)), rest)

def words : List (String × Datum) :=
  [("null", .null), ("true", .bool true), ("false", .bool false), ("NaN", .real .nan),
   ("Infinity", .real (.infinite false)), ("-Infinity", .real (.infinite true))]

def word? (cs : List Char) : Option (Datum × List Char) :=
  words.findSome? fun (name, value) => (name.toList.isPrefixOf? cs).map (value, ·)

/-- A value that is no list and no mapping. -/
def atom (cs : List Char) : Except Fault (Datum × List Char) :=
  match word? cs with
  | some reading => .ok reading
  | none => match cs with
    | '"' :: rest => do
      let (s, rest) ← string rest
      return (.text s, rest)
    | '-' :: rest => unsignedNumber true rest
    | cs => unsignedNumber false cs

mutual

def value : Nat → List Char → Except Fault (Datum × List Char)
  | 0, _ => .error .expectingValue
  | fuel + 1, cs =>
    match cs with
    | '[' :: rest => match skipSpace rest with
      | ']' :: rest => .ok (.list [], rest)
      | rest => do
        let (items, rest) ← items fuel rest
        return (.list items, rest)
    | '\x7b' :: rest => match skipSpace rest with
      | '\x7d' :: rest => .ok (.dict [], rest)
      | rest => do
        let (entries, rest) ← entries fuel [] rest
        return (.dict entries, rest)
    | cs => atom cs

def items : Nat → List Char → Except Fault (List Datum × List Char)
  | 0, _ => .error .expectingValue
  | fuel + 1, cs => do
    let (item, rest) ← value fuel cs
    match skipSpace rest with
    | ']' :: rest => return ([item], rest)
    | ',' :: rest =>
      let (more, rest) ← items fuel (skipSpace rest)
      return (item :: more, rest)
    | _ => throw .expectingComma

/-- The entries of a mapping that has one, up to its closing brace; `read` are
the entries so far. -/
def entries : Nat → List (Datum × Datum) → List Char →
    Except Fault (List (Datum × Datum) × List Char)
  | 0, _, _ => .error .expectingName
  | fuel + 1, read, cs =>
    match cs with
    | '"' :: rest => do
      let (name, rest) ← string rest
      match skipSpace rest with
      | ':' :: rest =>
        let (val, rest) ← value fuel (skipSpace rest)
        let read := Datum.putEntry read (.text name) val
        match skipSpace rest with
        | '\x7d' :: rest => return (read, rest)
        | ',' :: rest => entries fuel read (skipSpace rest)
        | _ => throw .expectingComma
      | _ => throw .expectingColon
    | _ => .error .expectingName

end

def parse (cs : List Char) : Except Fault Datum :=
  match cs with
  | '\uFEFF' :: _ => .error .byteOrderMark
  | cs => do
    let (val, rest) ← value (2 * cs.length + 2) (skipSpace cs)
    if (skipSpace rest).isEmpty then return val else throw .extraData

end DocSite.Json

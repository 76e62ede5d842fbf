import DocSite.Datum
import DocSite.Number.Arithmetic
import DocSite.Text.Case
import DocSite.Text.WholeNumber

/-! What scalars mean. A tag tells what a scalar is to be read as; a plain scalar without one
gets its tag from its form: words for truth and for nothing, numbers (decimal, binary,
octal, hexadecimal, by sixties, and with a point), dates and moments. Everything else
is text. A tag that is given need not fit its scalar. -/

namespace DocSite.Yaml

/-- What a node is to be read as. -/
inductive Tag
  | null
  | bool
  | int
  | float
  | timestamp
  | omap
  | pairs
  | set
  | str
  | seq
  | map
  | merge
  | value
  | other (text : String)
deriving DecidableEq, Repr, Inhabited

namespace Tag

/-- What the tags that are known begin with. -/
def lead : String := "tag:yaml.org,2002:"

def known : List (String × Tag) :=
  [("null", .null), ("bool", .bool), ("int", .int), ("float", .float), ("timestamp", .timestamp),
   ("omap", .omap), ("pairs", .pairs), ("set", .set), ("str", .str), ("seq", .seq),
   ("map", .map), ("merge", .merge), ("value", .value)]

def ofText (s : String) : Tag :=
  match known.find? fun entry => lead ++ entry.1 == s with
  | some (_, tag) => tag
  | none => .other s

def text (t : Tag) : String :=
  match t with
  | .other s => s
  | t => match known.find? (·.2 == t) with
    | some (name, _) => lead ++ name
    | none => ""

end Tag

/-- How a scalar can fail to fit its tag. -/
inductive ValueFault
  | notWhole (base : Nat) (text : String)
  | digits (excess : Text.DigitExcess)
  | notReal (text : String)
  | emptyNumber
  | notTruth (text : String)
  | notMoment
  | calendar (fault : Calendar.Fault)
  | noCharacter
  | largeCode
deriving DecidableEq, Repr

def ValueFault.message : ValueFault → String
  | .notWhole base s =>
    "invalid literal for int() with base " ++ toString base ++ ": " ++ Text.quoted s
  | .digits excess => excess.message
  | .notReal s => "could not convert string to float: " ++ Text.quoted s
  | .emptyNumber => "string index out of range"
  | .notTruth s => Text.quoted s
  | .notMoment => "not a date"
  | .calendar fault => fault.message
  | .noCharacter => "chr() arg not in range(0x110000)"
  | .largeCode => "a code is too large"

/-- The words that are not text. -/
def words : List (String × Tag) :=
  let all (tag : Tag) (names : List String) := names.map (·, tag)
  all .bool ["yes", "Yes", "YES", "true", "True", "TRUE", "on", "On", "ON", "no", "No", "NO",
    "false", "False", "FALSE", "off", "Off", "OFF"] ++
  all .null ["", "~", "null", "Null", "NULL"] ++
  [("<<", .merge), ("=", .value)] ++
  all .float [".nan", ".NaN", ".NAN"] ++
  ["!", "&", "*"].map fun s => (s, .other (Tag.lead ++ "yaml"))

/-- A text without its sign, and whether the sign was a minus. -/
def splitSign : List Char → Bool × List Char
  | '-' :: cs => (true, cs)
  | '+' :: cs => (false, cs)
  | cs => (false, cs)

/-- Digits may be grouped by underscores. -/
def isGrouped (base : Nat) (cs : List Char) : Bool :=
  cs.all fun c => c == '_' || (Text.digitValue? base c).isSome

def colonParts : List Char → List (List Char)
  | [] => [[]]
  | c :: cs =>
    if c == ':' then [] :: colonParts cs
    else match colonParts cs with
      | [] => [[c]]
      | part :: parts => (c :: part) :: parts

/-- Whether a part counts minutes or seconds: one digit, or two below sixty. -/
def isSixtieth : List Char → Bool
  | [d] => d.isDigit
  | [t, d] => '0' ≤ t && t ≤ '5' && d.isDigit
  | _ => false

/-- Whether digits begin with one and go on with digits and underscores. -/
def startsDigits (first : Char → Bool) : List Char → Bool
  | [] => false
  | c :: cs => first c && isGrouped 10 cs

/-- Whether a text counts by sixties, with at least one colon. -/
def isSixties (first : Char → Bool) (cs : List Char) : Bool :=
  match colonParts cs with
  | whole :: part :: parts => startsDigits first whole && (part :: parts).all isSixtieth
  | _ => false

/-- Whether a text has the form of a whole number. -/
def isInt (cs : List Char) : Bool :=
  let nonzero (c : Char) : Bool := '1' ≤ c && c ≤ '9'
  match (splitSign cs).2 with
  | ['0'] => true
  | '0' :: 'b' :: c :: ds => isGrouped 2 (c :: ds)
  | '0' :: 'x' :: c :: ds => isGrouped 16 (c :: ds)
  | '0' :: ds => isGrouped 8 ds
  | body => startsDigits nonzero body || isSixties nonzero body

/-- Whether a text is a mark of exponent with a sign and digits, or empty. -/
def isExponent : List Char → Bool
  | [] => true
  | e :: sign :: d :: ds =>
    (e == 'e' || e == 'E') && (sign == '+' || sign == '-') && (d :: ds).all Char.isDigit
  | _ => false

/-- Whether digits and an exponent follow a point. -/
def isAfterPoint (cs : List Char) : Bool :=
  isExponent (cs.dropWhile fun c => c.isDigit || c == '_')

/-- Whether a text has the form of a number with a point. -/
def isFloat (cs : List Char) : Bool :=
  let body := (splitSign cs).2
  let (whole, rest) := body.span (· != '.')
  match rest with
  | '.' :: after =>
    if whole.isEmpty then
      [".inf", ".Inf", ".INF"].contains (String.ofList body) ||
        (body == cs && after.head?.any Char.isDigit && isAfterPoint after)
    else (startsDigits Char.isDigit whole && isAfterPoint after) ||
      (isSixties Char.isDigit whole && isGrouped 10 after)
  | _ => false

/-- Between one and two digits, and what follows them. -/
def digitPair? (least : Nat) (cs : List Char) : Option (Nat × List Char) :=
  let ds := (cs.take 2).takeWhile Char.isDigit
  if least ≤ ds.length then some (Text.digitsValue 10 ds, cs.drop ds.length) else none

/-- What follows a certain character. -/
def after? (c : Char) : List Char → Option (List Char)
  | d :: cs => if c == d then some cs else none
  | [] => none

/-- The offset of a clock: none, universal time, or hours and perhaps minutes with a sign. -/
def offset? (cs : List Char) : Option (Option Int) :=
  match cs.dropWhile fun c => c == ' ' || c == '\t' with
  | [] => if cs.isEmpty then some none else none
  | ['Z'] => some (some 0)
  | sign :: rest =>
    if sign != '+' && sign != '-' then none
    else do
      let (hours, rest) ← digitPair? 1 rest
      let minutes ← match rest with
        | [] => some 0
        | rest => do
          let (minutes, rest) ← digitPair? 2 (← after? ':' rest)
          if rest.isEmpty then some minutes else none
      let total : Int := hours * 60 + minutes
      return some (if sign == '-' then -total else total)

/-- Millionths from the digits after a point. -/
def millionths (ds : List Char) : Nat :=
  Text.digitsValue 10 ((ds ++ List.replicate 6 '0').take 6)

/-- The time of day and the offset in a text, put onto a date. -/
def timeOn? (year month day : Nat) (cs : List Char) : Option Moment := do
  let (hour, cs) ← digitPair? 1 cs
  let (minute, cs) ← digitPair? 2 (← after? ':' cs)
  let (second, cs) ← digitPair? 2 (← after? ':' cs)
  let (fraction, cs) := match cs with
    | '.' :: cs => cs.span Char.isDigit
    | cs => ([], cs)
  return ⟨year, month, day, hour, minute, second, millionths fraction, ← offset? cs⟩

/-- What follows the sign or the blanks between a date and a time. -/
def timePart? : List Char → Option (List Char)
  | c :: cs =>
    if c == 'T' || c == 't' then some cs
    else if c == ' ' || c == '\t' then some (cs.dropWhile fun c => c == ' ' || c == '\t')
    else none
  | [] => none

/-- A date, or a date and a time of day. -/
def stamp? (cs : List Char) : Option ((Nat × Nat × Nat) ⊕ Moment) := do
  let (century, cs) ← digitPair? 2 cs
  let (inCentury, cs) ← digitPair? 2 cs
  let year := century * 100 + inCentury
  let (month, cs) ← digitPair? 1 (← after? '-' cs)
  let (day, cs) ← digitPair? 1 (← after? '-' cs)
  if cs.isEmpty then return .inl (year, month, day)
  return .inr (← timeOn? year month day (← timePart? cs))

/-- Whether a plain text is a date or a moment. A date alone is written in ten characters. -/
def isStamp (cs : List Char) : Bool :=
  match stamp? cs with
  | some (.inl _) => cs.length == 10
  | some (.inr _) => true
  | none => false

def Tag.ofPlain (s : String) : Tag :=
  let cs := s.toList
  match words.lookup s with
  | some tag => tag
  | none =>
    if isFloat cs then .float
    else if isInt cs then .int
    else if isStamp cs then .timestamp
    else .str

/-- The whole number that a text writes in a base. -/
def whole (base : Nat) (cs : List Char) : Except ValueFault Int :=
  match Text.readWhole base cs with
  | .error excess => .error (.digits excess)
  | .ok (some n) => .ok n
  | .ok none => .error (.notWhole base (.ofList cs))

/-- The whole number of an unsigned text. -/
def magnitude (cs : List Char) : Except ValueFault Int :=
  match cs with
  | [] => .error .emptyNumber
  | ['0'] => .ok 0
  | '0' :: 'b' :: ds => whole 2 ds
  | '0' :: 'x' :: ds => whole 16 ds
  | '0' :: ds => whole 8 ('0' :: ds)
  | cs => do
    if !cs.contains ':' then return ← whole 10 cs
    (← (colonParts cs).mapM (whole 10)).foldlM (fun n part => .ok (60 * n + part)) 0

def intValue (cs : List Char) : Except ValueFault Int := do
  let (negative, body) := splitSign (cs.filter (· != '_'))
  let n ← magnitude body
  return if negative then -n else n

/-- The number that decimal digits with a point and an exponent are. -/
def decimal? (cs : List Char) : Option Binary64 := do
  let (whole, rest) := cs.span (Text.decimalOf? · |>.isSome)
  let (places, rest) := match rest with
    | '.' :: rest => rest.span (Text.decimalOf? · |>.isSome)
    | rest => ([], rest)
  if whole.isEmpty && places.isEmpty then none
  let digits := (whole ++ places).filterMap Text.decimalOf?
  let power ← match rest with
    | [] => some 0
    | 'e' :: rest =>
      let (negative, ds) := splitSign rest
      if ds.isEmpty then none
      else (ds.mapM Text.decimalOf?).map fun ds =>
        let n : Int := (ds.foldl (fun n d => 10 * n + d) 0 : Nat)
        if negative then -n else n
    | _ => none
  return .ofDecimal false (digits.foldl (fun n d => 10 * n + d) 0) (power - places.length)

/-- The floating number that a text in small letters writes. -/
def real (cs : List Char) : Except ValueFault Binary64 :=
  let (negative, body) := splitSign (Text.trimBoth cs)
  let magnitude? :=
    if ["inf", "infinity"].contains (String.ofList body) then some (.infinite false)
    else if body == "nan".toList then some .nan
    else decimal? body
  match magnitude? with
  | some x => .ok (if negative then x.neg else x)
  | none => .error (.notReal (.ofList cs))

/-- The number that parts are which count by sixties, the last of them first; `unit` is
what the next part counts. -/
def sixtiesSum (unit : Nat) (sum : Binary64) : List Binary64 → Binary64
  | [] => sum
  | part :: parts => sixtiesSum (unit * 60) (sum.add (part.mul (.ofNat unit))) parts

def floatValue (cs : List Char) : Except ValueFault Binary64 := do
  let cs := (Text.lower (.ofList (cs.filter (· != '_')))).toList
  if cs.isEmpty then throw .emptyNumber
  let (negative, body) := splitSign cs
  let x ← if body == ".inf".toList then pure (.infinite false)
    else if body == ".nan".toList then pure .nan
    else if body.contains ':' then
      pure (sixtiesSum 1 (.ofNat 0) (← (colonParts body).mapM real).reverse)
    else real body
  return if negative then x.neg else x

def stampValue (cs : List Char) : Except ValueFault Datum :=
  match stamp? cs with
  | none => .error .notMoment
  | some (.inl (year, month, day)) => do
    (Calendar.checkDate year month day).mapError .calendar
    return .date year month day
  | some (.inr moment) => do
    (Calendar.check moment).mapError .calendar
    return .moment moment

def boolValue (s : String) : Except ValueFault Datum :=
  let key := Text.lower s
  if ["yes", "true", "on"].contains key then .ok (.bool true)
  else if ["no", "false", "off"].contains key then .ok (.bool false)
  else .error (.notTruth key)

/-- The value of a scalar that is read by a tag. Tags of collections and unknown ones
leave the text. -/
def scalarValue (tag : Tag) (s : String) : Except ValueFault Datum :=
  match tag with
  | .null => .ok .null
  | .bool => boolValue s
  | .int => (intValue s.toList).map .int
  | .float => (floatValue s.toList).map .real
  | .timestamp => stampValue s.toList
  | _ => .ok (.text s)

@[simp] theorem scalarValue_str (s : String) : scalarValue .str s = .ok (.text s) := rfl

@[simp] theorem scalarValue_null (s : String) : scalarValue .null s = .ok .null := rfl

end DocSite.Yaml

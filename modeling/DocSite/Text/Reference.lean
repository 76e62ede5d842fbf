import DocSite.Text.ReferenceTable

/-! Character references of markup, read back into text. A reference is numeric
or named. A numeric one may lack its semicolon; a code that is no character
gives the replacement character, the codes 80 to 9F are read as the code page
that pages once used for them, and the code of a control gives nothing. A named
one is matched as written or else by the longest known name that it starts with;
a name that is not known stays as it is. A decimal code of more digits than a number
may have is a fault. -/

namespace DocSite.Text

/-- What the codes 80 to 9F mean in a numeric reference, where it is not the
control itself. -/
def remappedCodes : List (Nat × Nat) :=
  [(0x80, 0x20AC), (0x82, 0x201A), (0x83, 0x192), (0x84, 0x201E), (0x85, 0x2026),
   (0x86, 0x2020), (0x87, 0x2021), (0x88, 0x2C6), (0x89, 0x2030), (0x8A, 0x160), (0x8B, 0x2039),
   (0x8C, 0x152), (0x8E, 0x17D), (0x91, 0x2018), (0x92, 0x2019), (0x93, 0x201C), (0x94, 0x201D),
   (0x95, 0x2022), (0x96, 0x2013), (0x97, 0x2014), (0x98, 0x2DC), (0x99, 0x2122), (0x9A, 0x161),
   (0x9B, 0x203A), (0x9C, 0x153), (0x9E, 0x17E), (0x9F, 0x178)]

/-- Codes that a numeric reference may name but that stand for no text. -/
def isDroppedCode (code : Nat) : Bool :=
  (1 ≤ code && code ≤ 8) || code == 0xB || (0xE ≤ code && code ≤ 0x1F) || code == 0x7F ||
    (0xFDD0 ≤ code && code ≤ 0xFDEF) || 0xFFFE ≤ code % 0x10000

def numericText (code : Nat) : List Char :=
  if code == 0 then ['\uFFFD']
  else match remappedCodes.lookup code with
    | some target => [Char.ofNat target]
    | none =>
      if (0xD800 ≤ code && code ≤ 0xDFFF) || 0x10FFFF < code then ['\uFFFD']
      else if isDroppedCode code then []
      else [Char.ofNat code]

/-- The value of a digit in a base of at most sixteen. -/
def digitValue? (base : Nat) (c : Char) : Option Nat :=
  let value? :=
    if '0' ≤ c && c ≤ '9' then some (c.toNat - '0'.toNat)
    else if 'a' ≤ c && c ≤ 'f' then some (c.toNat - 'a'.toNat + 10)
    else if 'A' ≤ c && c ≤ 'F' then some (c.toNat - 'A'.toNat + 10)
    else none
  value?.filter (· < base)

def digitsValue (base : Nat) (cs : List Char) : Nat :=
  cs.foldl (fun n c => n * base + (digitValue? base c).getD 0) 0

/-- The most digits that a decimal number may be written with. -/
def digitLimit : Nat := 4300

/-- A decimal number that is written with too many digits. -/
structure DigitExcess where
  digits : Nat
deriving DecidableEq, Repr

def DigitExcess.message (e : DigitExcess) : String :=
  "Exceeds the limit (" ++ toString digitLimit ++ " digits) for integer string conversion: " ++
    "value has " ++ toString e.digits ++ " digits; " ++
    "use sys.set_int_max_str_digits() to increase the limit"

/-- The number written by decimal digits, unless they are too many. -/
def decimalValue (cs : List Char) : Except DigitExcess Nat :=
  if digitLimit < cs.length then .error ⟨cs.length⟩ else .ok (digitsValue 10 cs)

/-- The text of a name that needs its semicolon. -/
def closedText? (stem : String) : Option (List Char) :=
  match closedNames.findSome? (·.lookup stem) with
  | some code => some [Char.ofNat code]
  | none => (pairNames.lookup stem).map fun (first, second) =>
      [Char.ofNat first, Char.ofNat second]

/-- The text of a name, which ends in its semicolon if it has one. -/
def namedText? (name : List Char) : Option (List Char) :=
  let stem := String.ofList (if name.getLast? == some ';' then name.dropLast else name)
  match openNames.lookup stem with
  | some code => some [Char.ofNat code]
  | none => if name.getLast? == some ';' then closedText? stem else none

/-- The text of a name that starts with a known one of at least two characters
and at most `n`, the longest being taken. -/
def longestNamed? (name : List Char) : Nat → Option (List Char)
  | 0 | 1 => none
  | n + 1 => match namedText? (name.take (n + 1)) with
    | some shown => some (shown ++ name.drop (n + 1))
    | none => longestNamed? name n

/-- The text that a name stands for, or the reference itself. -/
def namedText (name : List Char) : List Char :=
  match namedText? name with
  | some shown => shown
  | none => (longestNamed? name (name.length - 1)).getD ('&' :: name)

/-- Characters that a name cannot hold. -/
def endsName (c : Char) : Bool :=
  c == '\t' || c == '\n' || c == '\x0c' || c == ' ' || c == '<' || c == '&' || c == '#' || c == ';'

/-- One if the text goes on with a semicolon, which closes the reference. -/
def closing (cs : List Char) : Nat := if cs.head? == some ';' then 1 else 0

/-- The text of the reference whose ampersand has just been read, and how many
of the characters after the ampersand belong to it. -/
def reference? : List Char → Except DigitExcess (Option (List Char × Nat))
  | '#' :: cs =>
    let decimal := cs.takeWhile fun c => (digitValue? 10 c).isSome
    if !decimal.isEmpty then
      (decimalValue decimal).map fun code =>
        some (numericText code, 1 + decimal.length + closing (cs.drop decimal.length))
    else match cs with
      | x :: rest =>
        let hex := rest.takeWhile fun c => (digitValue? 16 c).isSome
        if (x == 'x' || x == 'X') && !hex.isEmpty then
          .ok (some (numericText (digitsValue 16 hex),
            2 + hex.length + closing (rest.drop hex.length)))
        else .ok none
      | [] => .ok none
  | cs =>
    let stem := (cs.takeWhile fun c => !endsName c).take 32
    if stem.isEmpty then .ok none
    else
      let size := stem.length + closing (cs.drop stem.length)
      .ok (some (namedText (cs.take size), size))

/-- Reads the references of a text whose first `skipped` characters are done. -/
def unescapeFrom (skipped : Nat) : List Char → Except DigitExcess (List Char)
  | [] => .ok []
  | c :: cs =>
    match skipped with
    | n + 1 => unescapeFrom n cs
    | 0 =>
      if c == '&' then
        match reference? cs with
        | .error e => .error e
        | .ok (some (shown, size)) => (unescapeFrom size cs).map (shown ++ ·)
        | .ok none => (unescapeFrom 0 cs).map (c :: ·)
      else (unescapeFrom 0 cs).map (c :: ·)

/-- The text with its character references replaced by what they stand for. -/
def unescape (s : String) : Except DigitExcess String :=
  (unescapeFrom 0 s.toList).map String.ofList

@[simp] theorem unescapeFrom_nil (n : Nat) : unescapeFrom n [] = .ok [] := rfl

theorem unescapeFrom_cons_ne {c : Char} (h : c ≠ '&') (cs : List Char) :
    unescapeFrom 0 (c :: cs) = (unescapeFrom 0 cs).map (c :: ·) := by
  simp [unescapeFrom, h]

end DocSite.Text

import DocSite.Text.Blank
import DocSite.Text.Reference
import DocSite.Text.Word

/-! Whole numbers as texts write them: blanks around them, a sign, a mark of their base, and
digits of any script, of which two may have one underscore between them. -/

namespace DocSite.Text

/-- The value of a digit of any script in a base of at most sixteen. -/
def anyDigit? (base : Nat) (c : Char) : Option Nat :=
  ((decimalOf? c).or (digitValue? 16 c)).filter (· < base)

/-- The values of digits with single underscores between them; one may come first, too,
if `marked`. -/
def digitValues? (base : Nat) (marked : Bool) : List Char → Option (List Nat)
  | [] => some []
  | '_' :: c :: cs =>
    if marked then do return (← anyDigit? base c) :: (← digitValues? base true cs) else none
  | c :: cs => do return (← anyDigit? base c) :: (← digitValues? base true cs)

/-- The letter that marks a base after a zero. -/
def baseLetter? : Nat → Option Char
  | 2 => some 'b'
  | 8 => some 'o'
  | 16 => some 'x'
  | _ => none

/-- A number without the mark of its base, and whether it had one. -/
def withoutBase (base : Nat) (cs : List Char) : List Char × Bool :=
  match cs with
  | '0' :: c :: rest =>
    if (baseLetter? base).any (· == c.toLower) then (rest, true) else (cs, false)
  | _ => (cs, false)

/-- The whole number that a text writes in a base, if it writes one. In base ten it may not
have too many digits. -/
def readWhole (base : Nat) (cs : List Char) : Except DigitExcess (Option Int) :=
  let cs := trimBoth cs
  let (negative, cs) := match cs with
    | '-' :: rest => (true, rest)
    | '+' :: rest => (false, rest)
    | rest => (false, rest)
  let (cs, marked) := withoutBase base cs
  match digitValues? base marked cs with
  | none | some [] => .ok none
  | some values =>
    if base == 10 && digitLimit < values.length then .error ⟨values.length⟩
    else
      let n : Int := (values.foldl (fun n d => base * n + d) 0 : Nat)
      .ok (some (if negative then -n else n))

end DocSite.Text

/-! Binary floating numbers of 64 bits, as exact values. A finite one is a
significand below 2^53 times a power of two that is at least 2^-1074. A decimal
is read as the nearest of them, a tie going to the even significand, and one
beyond the largest as an infinity. -/

namespace DocSite

/-- A floating number; the sign of zero is kept. -/
inductive Binary64
  | finite (negative : Bool) (significand : Nat) (exponent : Int)
  | infinite (negative : Bool)
  | nan
deriving DecidableEq, Repr, Inhabited

namespace Binary64

def leastExponent : Int := -1074

def greatestExponent : Int := 971

/-- `num / den` rounded to a whole number, a tie going to the even one. -/
def roundDiv (num den : Nat) : Nat :=
  let q := num / den
  let r := num % den
  if den < 2 * r || (2 * r == den && q % 2 == 1) then q + 1 else q

/-- The fraction `num / den * 2 ^ -e` with whole terms. -/
def scaleDown (num den : Nat) (e : Int) : Nat × Nat :=
  if e < 0 then (num * Nat.pow 2 e.natAbs, den) else (num, den * Nat.pow 2 e.natAbs)

/-- The power of two at which a positive fraction has a significand of 53 bits,
or the least exponent if that power is smaller. -/
def exponentFor (num den : Nat) : Int :=
  let guess : Int := (Nat.log2 num : Int) - (Nat.log2 den : Int) - 52
  let (n, d) := scaleDown num den guess
  max leastExponent (if n < d * Nat.pow 2 52 then guess - 1 else guess)

/-- The floating number nearest to a fraction. -/
def ofFraction (negative : Bool) (num den : Nat) : Binary64 :=
  if num == 0 then .finite negative 0 0
  else
    let e := exponentFor num den
    let (n, d) := scaleDown num den e
    let m := roundDiv n d
    let (m, e) := if m == Nat.pow 2 53 then (Nat.pow 2 52, e + 1) else (m, e)
    if greatestExponent < e then .infinite negative else .finite negative m e

/-- The floating number nearest to `significand * 10 ^ exponent`. Beyond three
hundred and fifty decimal places to either side the answer is known. -/
def ofDecimal (negative : Bool) (significand : Nat) (exponent : Int) : Binary64 :=
  let magnitude : Int := (Nat.log2 significand / 4 : Nat) + exponent
  if significand == 0 then .finite negative 0 0
  else if 350 < magnitude then .infinite negative
  else if (Nat.log2 significand : Int) + exponent < -350 then .finite negative 0 0
  else if exponent < 0 then ofFraction negative significand (Nat.pow 10 exponent.natAbs)
  else ofFraction negative (significand * Nat.pow 10 exponent.natAbs) 1

/-- The whole number that a floating number equals, if it is one. -/
def toInt? : Binary64 → Option Int
  | .finite negative m e =>
    let signed (n : Nat) : Int := if negative then -(n : Int) else n
    if 0 ≤ e then some (signed (m * Nat.pow 2 e.natAbs))
    else if m % Nat.pow 2 e.natAbs == 0 then some (signed (m / Nat.pow 2 e.natAbs))
    else none
  | _ => none

def isZero : Binary64 → Bool
  | .finite _ 0 _ => true
  | _ => false

@[simp] theorem isZero_nan : isZero .nan = false := rfl

end Binary64

end DocSite

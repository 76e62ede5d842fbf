import DocSite.Number.Binary64

/-! The shortest decimal of a floating number: the fewest digits that are read
back as the same number, and of two candidates with that many digits the nearer
one. It is written with a point while the point falls within the first sixteen
places or behind at most three zeros, and with an exponent otherwise. -/

namespace DocSite.Binary64

/-- The least `k` with `num / den < 10 ^ k`, searched downwards from `k`. -/
def pointPlace (num den : Nat) : Nat → Int → Int
  | 0, k => k
  | fuel + 1, k =>
    let smaller := if 0 < k then num < den * Nat.pow 10 (k - 1).natAbs
      else num * Nat.pow 10 (k - 1).natAbs < den
    if smaller then pointPlace num den fuel (k - 1) else k

/-- Whether the decimal `digits * 10 ^ exponent` is read as the number. -/
def readsBack (x : Binary64) (digits : Nat) (exponent : Int) : Bool :=
  match x with
  | .finite negative _ _ => ofDecimal negative digits exponent == x
  | _ => false

/-- The digits and exponent of the shortest decimal with at least `17 - more`
digits for the fraction `num / den`, whose point stands at `place`. -/
def shortestFrom (x : Binary64) (num den : Nat) (place : Int) : Nat → Nat × Int
  | 0 => (0, 0)
  | more + 1 =>
    let exponent := place - (17 - more : Nat)
    let (n, d) := if exponent < 0 then (num * Nat.pow 10 exponent.natAbs, den)
      else (num, den * Nat.pow 10 exponent.natAbs)
    let below := n / d
    let rest := n % d
    match readsBack x below exponent, readsBack x (below + 1) exponent with
    | true, true =>
      (if 2 * rest < d || (2 * rest == d && below % 2 == 0) then below else below + 1, exponent)
    | true, false => (below, exponent)
    | false, true => (below + 1, exponent)
    | false, false => shortestFrom x num den place more

/-- Takes the zeros off the end of a number of digits. -/
def trimZeros : Nat → Nat → Int → Nat × Int
  | 0, digits, exponent => (digits, exponent)
  | fuel + 1, digits, exponent =>
    if digits != 0 && digits % 10 == 0 then trimZeros fuel (digits / 10) (exponent + 1)
    else (digits, exponent)

/-- The digits and exponent of the shortest decimal of a finite number. -/
def shortest (x : Binary64) : Nat × Int :=
  match x with
  | .finite _ 0 _ => (0, 0)
  | .finite _ m e =>
    let (num, den) := scaleDown m 1 (-e)
    let (digits, exponent) := shortestFrom x num den (pointPlace num den 700 320) 17
    trimZeros 20 digits exponent
  | _ => (0, 0)

/-- Digits with a point after the first `place` of them. -/
def positional (digits : List Char) (place : Int) : List Char :=
  if place ≤ 0 then "0.".toList ++ List.replicate place.natAbs '0' ++ digits
  else
    let whole := digits.take place.natAbs
    let rest := digits.drop place.natAbs
    whole ++ List.replicate (place.natAbs - digits.length) '0' ++
      '.' :: (if rest.isEmpty then ['0'] else rest)

/-- Digits with a point after the first, and the power of ten after them. -/
def scientific (digits : List Char) (power : Int) : List Char :=
  let mantissa := match digits with
    | [d] => [d]
    | d :: ds => d :: '.' :: ds
    | [] => []
  let magnitude := (Nat.repr power.natAbs).toList
  mantissa ++ 'e' :: (if power < 0 then '-' else '+') ::
    (if magnitude.length < 2 then '0' :: magnitude else magnitude)

def display : Binary64 → String
  | .nan => "nan"
  | .infinite negative => if negative then "-inf" else "inf"
  | .finite negative m e =>
    let (digits, exponent) := shortest (.finite negative m e)
    let shown := (Nat.repr digits).toList
    let place : Int := shown.length + exponent
    let body :=
      if digits == 0 then "0.0".toList
      else if -4 < place && place ≤ 16 then positional shown place
      else scientific shown (place - 1)
    .ofList (if negative then '-' :: body else body)

end DocSite.Binary64

import DocSite.Number.Binary64

/-! Sums and products of floating numbers. The exact result is rounded once. -/

namespace DocSite.Binary64

/-- The floating number nearest to `n * 2 ^ e`. -/
def ofScaled (negative : Bool) (n : Nat) (e : Int) : Binary64 :=
  if e < 0 then ofFraction negative n (Nat.pow 2 e.natAbs)
  else ofFraction negative (n * Nat.pow 2 e.natAbs) 1

/-- The floating number nearest to a whole number. -/
def ofNat (n : Nat) : Binary64 := ofFraction false n 1

def neg : Binary64 → Binary64
  | .finite negative m e => .finite (!negative) m e
  | .infinite negative => .infinite (!negative)
  | .nan => .nan

def mul : Binary64 → Binary64 → Binary64
  | .finite s m e, .finite t n f => ofScaled (s != t) (m * n) (e + f)
  | .infinite s, .finite t n _ => if n == 0 then .nan else .infinite (s != t)
  | .finite s m _, .infinite t => if m == 0 then .nan else .infinite (s != t)
  | .infinite s, .infinite t => .infinite (s != t)
  | .nan, _ | _, .nan => .nan

/-- A significand with its sign, moved to a lower exponent. -/
def signedAt (low : Int) (negative : Bool) (m : Nat) (e : Int) : Int :=
  let n : Int := m * Nat.pow 2 (e - low).natAbs
  if negative then -n else n

def add : Binary64 → Binary64 → Binary64
  | .finite s m e, .finite t n f =>
    let low := min e f
    let sum := signedAt low s m e + signedAt low t n f
    if sum == 0 then .finite (s && t) 0 0 else ofScaled (sum < 0) sum.natAbs low
  | .infinite s, .infinite t => if s == t then .infinite s else .nan
  | .infinite s, .finite .. | .finite .., .infinite s => .infinite s
  | .nan, _ | _, .nan => .nan

@[simp] theorem neg_nan : neg .nan = .nan := rfl

@[simp] theorem neg_neg (x : Binary64) : x.neg.neg = x := by
  cases x <;> simp [neg]

end DocSite.Binary64

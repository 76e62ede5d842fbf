/-! Numbers in hexadecimal digits, as escapes and error texts show them. -/

namespace DocSite.Text

/-- The digit for a value below sixteen, with small letters. -/
def hexDigit (n : Nat) : Char := (Nat.digitChar n)

/-- The last `width` hexadecimal digits of a number. -/
def hexDigits : Nat → Nat → List Char
  | 0, _ => []
  | width + 1, n => hexDigits width (n / 16) ++ [hexDigit (n % 16)]

/-- The last `width` hexadecimal digits of a number, with capital letters. -/
def hexCapitals (width n : Nat) : List Char := (hexDigits width n).map Char.toUpper

@[simp] theorem length_hexDigits (width n : Nat) : (hexDigits width n).length = width := by
  induction width generalizing n with
  | zero => rfl
  | succ width ih => simp [hexDigits, ih]

end DocSite.Text

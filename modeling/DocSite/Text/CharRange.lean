/-! Sets of characters given by ranges of code points. A set is a list of
ranges, and a character is in it when some range holds its code point. -/

namespace DocSite.Text

/-- The first and the last code point of a range, both included. -/
abbrev CharRange := Nat × Nat

def inRanges (ranges : List CharRange) (c : Char) : Bool :=
  ranges.any fun range => range.1 ≤ c.toNat && c.toNat ≤ range.2

end DocSite.Text

/-! Lone surrogates. JSON and YAML can name one half of a surrogate pair without the other. What
holds such a half is no text of Unicode: it can be compared, joined and shown as an escape, but
UTF-8 has no bytes for it. Each half is stood for by a character of a block that Unicode leaves
empty; that a text holds these characters themselves, and that a half has its own place in the
order of code points, is left out. -/

namespace DocSite.Text

def isSurrogate (code : Nat) : Bool := 0xD800 ≤ code && code ≤ 0xDFFF

/-- How far the characters that stand for surrogates are behind these. -/
def standInShift : Nat := 0xD0000

/-- The character of a code, which for a surrogate is the one that stands for it. -/
def charOfCode (code : Nat) : Char :=
  .ofNat (if isSurrogate code then standInShift + code else code)

/-- The surrogate that a character stands for, if it stands for one. -/
def surrogate? (c : Char) : Option Nat :=
  if standInShift ≤ c.toNat && isSurrogate (c.toNat - standInShift) then
    some (c.toNat - standInShift)
  else none

/-- Whether a character is none of Unicode. -/
def isLone (c : Char) : Bool := (surrogate? c).isSome

/-- Whether all characters of a text are of Unicode. -/
def isWhole (s : String) : Bool := s.toList.all fun c => !isLone c

@[simp] theorem isWhole_append (s t : String) : isWhole (s ++ t) = (isWhole s && isWhole t) := by
  simp [isWhole]

end DocSite.Text

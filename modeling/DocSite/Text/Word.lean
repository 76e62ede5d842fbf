import DocSite.Text.LetterTable
import DocSite.Text.NameTable

/-! The characters of words and of names. A word is made of letters, digits, other
numbers and underscores. A name begins with a letter or an underscore and goes on
with characters of words; a few characters count for the one and not for the other. -/

namespace DocSite.Text

def isLetter (c : Char) : Bool :=
  if c.toNat < 0x80 then c.isAlpha else inRanges letterRanges c

/-- Whether a character is one of ten digits that follow each other. -/
def isDecimal (c : Char) : Bool :=
  if c.toNat < 0x80 then c.isDigit else inRanges decimalRanges c

/-- The value of a decimal digit: its place after the zero of its range. -/
def decimalOf? (c : Char) : Option Nat :=
  (decimalRanges.find? fun range => range.1 ≤ c.toNat && c.toNat ≤ range.2).map fun range =>
    (c.toNat - range.1) % 10

def isWordChar (c : Char) : Bool :=
  if c.toNat < 0x80 then c.isAlphanum || c == '_'
  else inRanges letterRanges c || inRanges numberRanges c

def beginsName (c : Char) : Bool :=
  c == '_' || isLetter c != inRanges nameStartExceptions c

def continuesName (c : Char) : Bool := isWordChar c != inRanges nameRestExceptions c

def isName : List Char → Bool
  | [] => false
  | c :: cs => beginsName c && cs.all continuesName

end DocSite.Text

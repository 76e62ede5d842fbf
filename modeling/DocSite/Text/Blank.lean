import DocSite.Text.CharRange

/-! White space, and the operations on text that are defined by it: trimming,
splitting into words, removing every blank. The set is the wide one, with the
four information separators, the next-line control and the typographic spaces,
so it is larger than the one of the core library. -/

namespace DocSite.Text

/-- The code points that count as white space. -/
def blankRanges : List CharRange :=
  [(0x09, 0x0D), (0x1C, 0x20), (0x85, 0x85), (0xA0, 0xA0), (0x1680, 0x1680), (0x2000, 0x200A),
   (0x2028, 0x2029), (0x202F, 0x202F), (0x205F, 0x205F), (0x3000, 0x3000)]

def isBlank (c : Char) : Bool := inRanges blankRanges c

/-- A character that ends a line: line feed or carriage return. -/
def isLineBreak (c : Char) : Bool := c == '\n' || c == '\r'

def trimStart (cs : List Char) : List Char := cs.dropWhile isBlank

def trimEnd (cs : List Char) : List Char := (cs.reverse.dropWhile isBlank).reverse

def trimBoth (cs : List Char) : List Char := trimEnd (trimStart cs)

/-- The text without the blanks at both ends. -/
def trim (s : String) : String := .ofList (trimBoth s.toList)

/-- The text with every blank left out. -/
def withoutBlanks (s : String) : String := .ofList (s.toList.filter fun c => !isBlank c)

/-- The first run of characters that are not blank, after any leading blanks. -/
def firstWord (cs : List Char) : List Char := (trimStart cs).takeWhile fun c => !isBlank c

theorem isLineBreak_isBlank {c : Char} (h : isLineBreak c = true) : isBlank c = true := by
  simp only [isLineBreak, Bool.or_eq_true, beq_iff_eq] at h
  rcases h with rfl | rfl <;> decide

@[simp] theorem trimStart_nil : trimStart [] = [] := rfl

theorem trimStart_suffix (cs : List Char) : trimStart cs <:+ cs := List.dropWhile_suffix _

end DocSite.Text

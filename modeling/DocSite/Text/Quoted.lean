import DocSite.Text.HiddenTable
import DocSite.Text.Hex
import DocSite.Text.Surrogate

/-! Quoted text, as it stands in lists, in mappings and in the messages about
files. The quote is the single one, unless the text holds a single quote and no
double one. The quote and the backslash are escaped, so are tab and line breaks
by a letter, and a character without a visible form by its code. -/

namespace DocSite.Text

/-- Whether a character has a visible form, the space included. -/
def isVisible (c : Char) : Bool := !inRanges hiddenRanges c

def quoteFor (cs : List Char) : Char :=
  if cs.contains '\'' && !cs.contains '"' then '"' else '\''

def quotedChar (quote c : Char) : List Char :=
  if c == quote || c == '\\' then ['\\', c]
  else if c == '\t' then ['\\', 't']
  else if c == '\n' then ['\\', 'n']
  else if c == '\r' then ['\\', 'r']
  else if isVisible c then [c]
  else if c.toNat < 0x100 then '\\' :: 'x' :: hexDigits 2 c.toNat
  else if c.toNat < 0x10000 then '\\' :: 'u' :: hexDigits 4 c.toNat
  else match surrogate? c with
    | some unit => '\\' :: 'u' :: hexDigits 4 unit
    | none => '\\' :: 'U' :: hexDigits 8 c.toNat

def quoted (s : String) : String :=
  let cs := s.toList
  let quote := quoteFor cs
  .ofList (quote :: cs.flatMap (quotedChar quote) ++ [quote])

end DocSite.Text

import DocSite.Text.Hex
import DocSite.Text.Reference
import DocSite.Text.Utf8

/-! Percent encoding of addresses. A character that an address may hold stays,
and each byte of any other is written as a percent sign and two hexadecimal
capitals. Decoding reads a stretch of ASCII characters as bytes and these as
UTF-8, with the replacement character for what is none; a percent sign without
two digits after it stands for itself. -/

namespace DocSite.Text

/-- The characters that stay as they are: ASCII letters and digits, and the
signs that structure an address or may stand in it. -/
def isAddressChar (c : Char) : Bool := c.isAlphanum || ";,/?:@&=+$-_.!~*'()#".toList.contains c

def percentByte (b : UInt8) : List Char := '%' :: hexCapitals 2 b.toNat

/-- A character as it stands in an address. -/
def percentChar (c : Char) : List Char :=
  if isAddressChar c then [c] else (String.utf8EncodeChar c).flatMap percentByte

def percentEncode (s : String) : String := .ofList (s.toList.flatMap percentChar)

/-- The bytes of ASCII characters, each percent sign with two digits being one
byte; the first `skipped` characters are done. -/
def percentBytes (skipped : Nat) : List Char → Bytes
  | [] => []
  | c :: cs =>
    match skipped with
    | n + 1 => percentBytes n cs
    | 0 =>
      match c, cs with
      | '%', h :: l :: _ =>
        match digitValue? 16 h, digitValue? 16 l with
        | some high, some low => UInt8.ofNat (high * 16 + low) :: percentBytes 2 cs
        | _, _ => UInt8.ofNat c.toNat :: percentBytes 0 cs
      | _, _ => UInt8.ofNat c.toNat :: percentBytes 0 cs

/-- Decodes a text; `held` are the ASCII characters read since the last other
one, in reverse order. -/
def percentDecodeFrom (held : List Char) : List Char → List Char
  | [] => decodeUtf8Lossy (percentBytes 0 held.reverse)
  | c :: cs =>
    if c.toNat < 0x80 then percentDecodeFrom (c :: held) cs
    else decodeUtf8Lossy (percentBytes 0 held.reverse) ++ c :: percentDecodeFrom [] cs

def percentDecode (s : String) : String := .ofList (percentDecodeFrom [] s.toList)

@[simp] theorem percentEncode_empty : percentEncode "" = "" := rfl

theorem percentEncode_append (s t : String) :
    percentEncode (s ++ t) = percentEncode s ++ percentEncode t := by
  simp [percentEncode]

theorem percentChar_of_isAddressChar {c : Char} (h : isAddressChar c = true) :
    percentChar c = [c] := by
  simp [percentChar, h]

end DocSite.Text

import DocSite.Text.Hex
import DocSite.Text.Utf8

/-! Codecs, which turn bytes into text and text into bytes. A run is given its codecs by the names
that settings may have for an encoding; what each of them does is its own affair. -/

namespace DocSite.Text

/-- The bytes from `start` on that are no text, and why. -/
structure DecodeError where
  encoding : String
  bytes : Bytes
  start : Nat
  reason : String
deriving DecidableEq, Repr

def DecodeError.message (e : DecodeError) : String :=
  let place := match e.bytes with
    | [b] => "byte 0x" ++ String.ofList (hexDigits 2 b.toNat) ++ " in position " ++ toString e.start
    | bs => "bytes in position " ++ toString e.start ++ "-" ++ toString (e.start + bs.length - 1)
  "'" ++ e.encoding ++ "' codec can't decode " ++ place ++ ": " ++ e.reason

/-- A character that an encoding has no bytes for. -/
structure EncodeError where
  encoding : String
  char : Char
deriving DecidableEq, Repr

def EncodeError.message (e : EncodeError) : String :=
  "'" ++ e.encoding ++ "' codec can't encode character U+" ++
    String.ofList (hexCapitals 4 e.char.toNat)

/-- Why a codec has no text for bytes, or no bytes for a text. A codec may also fail in a way of
its own, which is told by the kind of the error and its text. -/
inductive CodecError
  | undecodable (cause : DecodeError)
  | unencodable (cause : EncodeError)
  | other (kind message : String)
deriving DecidableEq, Repr

def CodecError.message : CodecError → String
  | .undecodable cause => cause.message
  | .unencodable cause => cause.message
  | .other _ message => message

structure Codec where
  decode : Bytes → Except CodecError (List Char)
  encode : List Char → Except CodecError Bytes

/-- The codecs that there are by name, or what is said of a name that has none. -/
abbrev Codecs := String → Except String Codec

end DocSite.Text

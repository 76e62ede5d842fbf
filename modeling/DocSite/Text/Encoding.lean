import DocSite.Text.Codec
import DocSite.Text.Surrogate

/-! Three encodings that source files may be read and pages written in: UTF-8,
Latin-1 and ASCII, each under its usual names. Decoding names the first bytes
that are no text, encoding the first character that has no bytes. These are the
codecs of a run that is not given others. -/

namespace DocSite.Text

inductive Encoding
  | utf8
  | latin1
  | ascii
deriving DecidableEq, Repr

namespace Encoding

/-- The name that error texts use. -/
def label : Encoding → String
  | .utf8 => "utf-8"
  | .latin1 => "latin-1"
  | .ascii => "ascii"

/-- The name of an encoding in the list of encodings, which has no points in it. -/
def listName : Encoding → String
  | .utf8 => "utf_8"
  | .latin1 => "latin_1"
  | .ascii => "ascii"

/-- The further names of an encoding, in small letters with one underscore between words. -/
def aliases : Encoding → List String
  | .utf8 => ["u8", "utf", "utf8", "utf8_ucs2", "utf8_ucs4", "cp65001"]
  | .latin1 => ["8859", "cp819", "csisolatin1", "ibm819", "iso8859", "iso8859_1",
      "iso_8859_1", "iso_8859_1_1987", "iso_ir_100", "l1", "latin", "latin1"]
  | .ascii => ["646", "ansi_x3.4_1968", "ansi_x3_4_1968", "ansi_x3.4_1986", "cp367",
      "csascii", "ibm367", "iso646_us", "iso_646.irv_1991", "iso_ir_6", "us", "us_ascii"]

def isNameChar (c : Char) : Bool := c.isAlphanum || c == '.'

/-- Writes a name in small letters, with one underscore for each run of other
signs that stands between two words; `pending` tells that such a run is open. -/
def normalizeName (pending : Bool) : List Char → List Char
  | [] => []
  | c :: cs =>
    if isNameChar c then
      (if pending then ['_'] else []) ++ c.toLower :: normalizeName false cs
    else normalizeName true cs

/-- The encoding of a name. In the further names an underscore may also be a point. -/
def ofName? (name : String) : Option Encoding :=
  let key := normalizeName false (name.toList.dropWhile fun c => !isNameChar c)
  let plain := key.map fun c => if c == '.' then '_' else c
  [utf8, latin1, ascii].find? fun e => e.listName.toList == key ||
    e.aliases.any fun a => a.toList == key || a.toList == plain

end Encoding

/-- The characters of a list of pieces up to the first bad run. The bytes still
to be cut are `bytes`, at offset `start` of the whole. -/
def decodePieces (start : Nat) (bytes : Bytes) :
    List Utf8Piece → Except DecodeError (List Char)
  | [] => .ok []
  | .char c :: rest =>
    (decodePieces (start + c.utf8Size) (bytes.drop c.utf8Size) rest).map (c :: ·)
  | .bad fault length :: _ =>
    .error ⟨Encoding.utf8.label, bytes.take length, start, fault.message⟩

/-- The characters of ASCII bytes; `start` is the offset of the first of them. -/
def decodeAscii (start : Nat) : Bytes → Except DecodeError (List Char)
  | [] => .ok []
  | b :: bs =>
    if b < 0x80 then (decodeAscii (start + 1) bs).map (Char.ofNat b.toNat :: ·)
    else .error ⟨Encoding.ascii.label, [b], start, "ordinal not in range(128)"⟩

def Encoding.decode (e : Encoding) (bytes : Bytes) : Except DecodeError (List Char) :=
  match e with
  | .utf8 => decodePieces 0 bytes (utf8Pieces bytes)
  | .latin1 => .ok (bytes.map fun b => Char.ofNat b.toNat)
  | .ascii => decodeAscii 0 bytes

/-- Whether a character has no bytes in an encoding. -/
def Encoding.lacks (e : Encoding) (c : Char) : Bool :=
  match e with
  | .utf8 => isLone c
  | .latin1 => 256 ≤ c.toNat
  | .ascii => 128 ≤ c.toNat

/-- The bytes of a text that an encoding has bytes for. -/
def Encoding.bytesOf (e : Encoding) (cs : List Char) : Bytes :=
  match e with
  | .utf8 => encodeUtf8 cs
  | .latin1 | .ascii => cs.map fun c => UInt8.ofNat c.toNat

def Encoding.encode (e : Encoding) (cs : List Char) : Except EncodeError Bytes :=
  match cs.find? e.lacks with
  | some c => .error ⟨e.label, c⟩
  | none => .ok (e.bytesOf cs)

def Encoding.codec (e : Encoding) : Codec where
  decode bytes := (e.decode bytes).mapError .undecodable
  encode cs := (e.encode cs).mapError .unencodable

/-- The three encodings under all their names. -/
def Codecs.standard : Codecs := fun name =>
  match Encoding.ofName? name with
  | some e => .ok e.codec
  | none => .error ("unknown encoding: " ++ name)

/-- A text with every line break written as a line feed; `afterReturn` tells that
a carriage return has just been read. -/
def unifyBreaks (afterReturn : Bool) : List Char → List Char
  | [] => []
  | c :: cs =>
    if c == '\r' then '\n' :: unifyBreaks true cs
    else if c == '\n' && afterReturn then unifyBreaks false cs
    else c :: unifyBreaks false cs

@[simp] theorem unifyBreaks_nil (r : Bool) : unifyBreaks r [] = [] := rfl

end DocSite.Text

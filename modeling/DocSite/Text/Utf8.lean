/-! UTF-8. Decoding cuts the bytes into pieces: characters, and runs of bytes
that no character is written by. A bad run is as long as the part of it that
could still have begun a character, so a reader that replaces each run by one
mark and a reader that stops at the first run see the same cut. -/

namespace DocSite.Text

abbrev Bytes := List UInt8

/-- Why a run of bytes is no character. -/
inductive Utf8Fault
  | startByte
  | continuationByte
  | endOfData
deriving DecidableEq, Repr

def Utf8Fault.message : Utf8Fault → String
  | .startByte => "invalid start byte"
  | .continuationByte => "invalid continuation byte"
  | .endOfData => "unexpected end of data"

/-- A part of a byte sequence: a character, or a bad run and its length. -/
inductive Utf8Piece
  | char (c : Char)
  | bad (fault : Utf8Fault) (length : Nat)
deriving DecidableEq, Repr

def Utf8Piece.size : Utf8Piece → Nat
  | .char c => c.utf8Size
  | .bad _ length => length

/-- What a byte that begins a longer character asks of the bytes after it: their
number, and the least and the greatest value of the first of them. -/
def Utf8Piece.lead? (b : UInt8) : Option (Nat × UInt8 × UInt8) :=
  if 0xC2 ≤ b && b ≤ 0xDF then some (1, 0x80, 0xBF)
  else if b == 0xE0 then some (2, 0xA0, 0xBF)
  else if b == 0xED then some (2, 0x80, 0x9F)
  else if 0xE1 ≤ b && b ≤ 0xEF then some (2, 0x80, 0xBF)
  else if b == 0xF0 then some (3, 0x90, 0xBF)
  else if 0xF1 ≤ b && b ≤ 0xF3 then some (3, 0x80, 0xBF)
  else if b == 0xF4 then some (3, 0x80, 0x8F)
  else none

/-- Reads `owed` more bytes of a character, of which the first lies between
`least` and `greatest`; `code` and `length` describe the bytes read so far. -/
def Utf8Piece.continued (code length : Nat) (least greatest : UInt8) :
    Nat → Bytes → Utf8Piece
  | 0, _ => .char (Char.ofNat code)
  | _ + 1, [] => .bad .endOfData length
  | owed + 1, b :: bs =>
    if least ≤ b && b ≤ greatest then
      continued (code * 64 + (b.toNat - 0x80)) (length + 1) 0x80 0xBF owed bs
    else .bad .continuationByte length

/-- The piece that begins with the byte `b`. -/
def Utf8Piece.read (b : UInt8) (bs : Bytes) : Utf8Piece :=
  if b < 0x80 then .char (Char.ofNat b.toNat)
  else match lead? b with
    | none => .bad .startByte 1
    | some (owed, least, greatest) =>
      continued (b.toNat % (0x40 >>> owed)) 1 least greatest owed bs

/-- The pieces of a byte sequence whose first `skipped` bytes are done. -/
def utf8PiecesFrom (skipped : Nat) : Bytes → List Utf8Piece
  | [] => []
  | b :: bs =>
    match skipped with
    | n + 1 => utf8PiecesFrom n bs
    | 0 =>
      let piece := Utf8Piece.read b bs
      piece :: utf8PiecesFrom (piece.size - 1) bs

/-- A byte sequence cut into characters and bad runs. -/
def utf8Pieces (bytes : Bytes) : List Utf8Piece := utf8PiecesFrom 0 bytes

/-- The text of a byte sequence, with the replacement character for each bad run. -/
def decodeUtf8Lossy (bytes : Bytes) : List Char :=
  (utf8Pieces bytes).map fun
    | .char c => c
    | .bad _ _ => '\uFFFD'

def encodeUtf8 (cs : List Char) : Bytes := cs.flatMap String.utf8EncodeChar

@[simp] theorem utf8Pieces_nil : utf8Pieces [] = [] := rfl

@[simp] theorem encodeUtf8_nil : encodeUtf8 [] = [] := rfl

@[simp] theorem encodeUtf8_cons (c : Char) (cs : List Char) :
    encodeUtf8 (c :: cs) = String.utf8EncodeChar c ++ encodeUtf8 cs := rfl

end DocSite.Text

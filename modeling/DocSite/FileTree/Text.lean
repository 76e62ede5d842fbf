import DocSite.FileTree
import DocSite.Text.Encoding

/-! Files of text. A file is read in a named encoding, and every line break in it
becomes a line feed. Writing changes no line breaks; a text that the encoding has
no bytes for leaves an empty file. The file is opened before the codec is
looked up, so of two faults the one of the file wins. -/

namespace DocSite

open Text (Codecs)

/-- Why a text could not be read or written. -/
inductive TextError
  | file (cause : FileError)
  | nullInEncoding
  | noCodec (message : String)
  | codec (cause : Text.CodecError)
deriving DecidableEq, Repr

namespace TextError

def message : TextError → String
  | .file cause => cause.message
  | .nullInEncoding => "embedded null character"
  | .noCodec message => message
  | .codec cause => cause.message

/-- Whether the file system failed the operation. -/
def isRefusal : TextError → Bool
  | .file cause => cause.isRefusal
  | _ => false

end TextError

namespace FileTree

/-- The name of the encoding that all input files but source files are in. -/
def plainEncoding : String := "utf-8"

/-- Refuses the name of an encoding that holds a null character. -/
def checkEncoding (encoding : String) : Except TextError Unit :=
  if encoding.toList.contains '\x00' then .error .nullInEncoding else .ok ()

/-- The text of the file that a path leads to, read with one of some codecs. -/
def readTextBy (codecs : Codecs) (t : FileTree) (encoding : String) (p : Path) :
    Except TextError (List Char) := do
  checkEncoding encoding
  let bytes ← (t.read p).mapError .file
  let codec ← (codecs encoding).mapError .noCodec
  let cs ← (codec.decode bytes).mapError .codec
  return Text.unifyBreaks false cs

def readText (t : FileTree) (encoding : String) (p : Path) : Except TextError (List Char) :=
  readTextBy .standard t encoding p

end FileTree

/-- An operation on files that may also fail for the text's sake. -/
abbrev TextM := ExceptT TextError (StateM FileTree)

namespace TextM

def ofFileM {α : Type} (x : FileM α) : TextM α := ExceptT.mk do
  return (← x.run).mapError .file

/-- Opens a file for a text, in a directory that is made if it is not there. -/
def openFile (encoding : String) (p : Path) : TextM (List String) := do
  ofFileM (FileM.makeDirectories p.parent)
  MonadExcept.ofExcept (FileTree.checkEncoding encoding)
  ofFileM (FileM.openFile p)

/-- Puts a text into the open file at a place. -/
def fill (codecs : Codecs) (encoding : String) (place : List String) (text : List Char) :
    TextM Unit := do
  let codec ← MonadExcept.ofExcept ((codecs encoding).mapError .noCodec)
  let bytes ← MonadExcept.ofExcept ((codec.encode text).mapError .codec)
  ofFileM (FileM.fill place bytes)

def write (codecs : Codecs) (encoding : String) (p : Path) (text : List Char) : TextM Unit := do
  let place ← openFile encoding p
  fill codecs encoding place text

end TextM

end DocSite

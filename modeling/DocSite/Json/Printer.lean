import DocSite.Datum
import DocSite.Text.Hex
import DocSite.Text.Surrogate

/-! Writing JSON. Every character beyond visible ASCII is escaped, by one code or
by a surrogate pair. A value goes on one line, or each item of a list and each
entry of a mapping goes on a line of its own, two spaces further in; what is
empty stays closed. -/

namespace DocSite.Json

def escapeUnit (n : Nat) : List Char := '\\' :: 'u' :: Text.hexDigits 4 n

def escapedChar (c : Char) : List Char :=
  if c == '"' then ['\\', '"']
  else if c == '\\' then ['\\', '\\']
  else if c == '\n' then ['\\', 'n']
  else if c == '\r' then ['\\', 'r']
  else if c == '\t' then ['\\', 't']
  else if c == '\x0c' then ['\\', 'f']
  else if c == '\x08' then ['\\', 'b']
  else if ' ' ≤ c && c ≤ '~' then [c]
  else if c.toNat < 0x10000 then escapeUnit c.toNat
  else match Text.surrogate? c with
    | some unit => escapeUnit unit
    | none =>
      let n := c.toNat - 0x10000
      escapeUnit (0xD800 + n / 0x400) ++ escapeUnit (0xDC00 + n % 0x400)

def renderString (s : String) : String :=
  .ofList ('"' :: s.toList.flatMap escapedChar ++ ['"'])

/-- A value that is no list and no mapping. -/
def renderAtom : Datum → String
  | .null => "null"
  | .bool b => if b then "true" else "false"
  | .int n => toString n
  | .real (.infinite negative) => if negative then "-Infinity" else "Infinity"
  | .real .nan => "NaN"
  | .real x => x.display
  | other => renderString other.display

/-- Parts between brackets: on one line, or each on a line that is indented by
two spaces per level. -/
def bracketed (indented : Bool) (level : Nat) (opening closing : Char) (parts : List String) :
    String :=
  if parts.isEmpty then .ofList [opening, closing]
  else if indented then
    let newLine (n : Nat) : String := .ofList ('\n' :: List.replicate (2 * n) ' ')
    .singleton opening ++ newLine (level + 1) ++
      ("," ++ newLine (level + 1)).intercalate parts ++ newLine level ++ .singleton closing
  else .singleton opening ++ ", ".intercalate parts ++ .singleton closing

mutual

def renderAt (indented : Bool) (level : Nat) : Datum → String
  | .list items => bracketed indented level '[' ']' (renderItems indented (level + 1) items)
  | .dict entries =>
    bracketed indented level '\x7b' '\x7d' (renderEntries indented (level + 1) entries)
  | atom => renderAtom atom

def renderItems (indented : Bool) (level : Nat) : List Datum → List String
  | [] => []
  | item :: items => renderAt indented level item :: renderItems indented level items

def renderEntries (indented : Bool) (level : Nat) : List (Datum × Datum) → List String
  | [] => []
  | (key, val) :: entries =>
    (renderString key.display ++ ": " ++ renderAt indented level val) ::
      renderEntries indented level entries

end

/-- A value as JSON, on one line or indented. -/
def render (indented : Bool) (value : Datum) : String := renderAt indented 0 value

def sortEntries (entries : List (Datum × Datum)) : List (Datum × Datum) :=
  entries.mergeSort fun a b => a.1.display ≤ b.1.display

mutual

/-- A value with the entries of every mapping ordered by their keys. -/
def sortKeys : Datum → Datum
  | .list items => .list (sortKeysItems items)
  | .dict entries => .dict (sortEntries (sortKeysEntries entries))
  | atom => atom

def sortKeysItems : List Datum → List Datum
  | [] => []
  | item :: items => sortKeys item :: sortKeysItems items

def sortKeysEntries : List (Datum × Datum) → List (Datum × Datum)
  | [] => []
  | (key, val) :: entries => (key, sortKeys val) :: sortKeysEntries entries

end

end DocSite.Json

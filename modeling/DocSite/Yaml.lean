import DocSite.Yaml.Composer
import DocSite.Yaml.Construct

/-! Reading YAML. A text is cut into tokens, the tokens build nodes, and the nodes stand for
data. A text without a document is null. -/

namespace DocSite.Yaml

/-- A reader of YAML: the data in a text, or why there are none. -/
abbrev Loader := List Char → Except Fault Datum

def isAllowed (c : Char) : Bool :=
  let n := c.toNat
  n == 9 || n == 10 || n == 13 || (0x20 ≤ n && n ≤ 0x7E) || n == 0x85 ||
    (0xA0 ≤ n && n ≤ 0xFFFD) || 0x10000 ≤ n

/-- Refuses the first character that a text may not hold. -/
def checkCharacters (cs : List Char) : Except Fault Unit :=
  match cs.find? fun c => !isAllowed c with
  | some c => .error (.unacceptable c (cs.idxOf c))
  | none => .ok ()

/-- The data in a text. No text has more nodes, nor steps between them, than a few for each
character. -/
def parse : Loader := fun cs => do
  checkCharacters cs
  let bound := 20 * cs.length + 50
  match ← ((Reader.document bound).run (.start cs)).map Prod.fst with
  | none => return .null
  | some root => root.construct bound

end DocSite.Yaml

import DocSite.Text.Blank
import DocSite.Text.Case
import DocSite.Text.Word

/-! Sets of characters, as patterns name them: by ranges of codes and by kinds, all of
them or all but them. How far capitals and small letters count as one is part of a set. -/

namespace DocSite

/-- A class of characters with a letter of its own in patterns. -/
inductive CharKind
  | digit
  | blank
  | word
deriving DecidableEq, Repr

/-- Whether a character belongs to a kind, of which all may count or ASCII alone. -/
def CharKind.holds (ascii : Bool) : CharKind → Char → Bool
  | .digit, c => if ascii then c.isDigit else Text.isDecimal c
  | .blank, c =>
    if ascii then c == ' ' || (0x09 ≤ c.toNat && c.toNat ≤ 0x0D) else Text.isBlank c
  | .word, c => if ascii then c.isAlphanum || c == '_' else Text.isWordChar c

/-- One item of a set of characters. A range is given by codes. -/
inductive CharItem
  | range (low high : Nat)
  | kind (kind : CharKind) (ascii negated : Bool)
deriving DecidableEq, Repr

/-- How far capitals count as their small letters. -/
inductive Casing
  | exact
  | asciiFree
  | free
deriving DecidableEq, Repr

namespace Casing

/-- The characters that count as one with a character. -/
def forms : Casing → Char → List Char
  | .exact, c => [c]
  | .asciiFree, c => [c, c.toLower, c.toUpper]
  | .free, c => Text.caseForms c

/-- The character that stands for those that differ in case alone. -/
def fold : Casing → Char → Char
  | .exact, c => c
  | .asciiFree, c => c.toLower
  | .free, c => if c == 'İ' then 'i' else Text.lowerChar c

@[simp] theorem forms_exact (c : Char) : forms .exact c = [c] := rfl

end Casing

/-- Whether an item accepts a character. Case matters to ranges alone. -/
def CharItem.holds (casing : Casing) : CharItem → Char → Bool
  | .range low high, c => (casing.forms c).any fun d => low ≤ d.toNat && d.toNat ≤ high
  | .kind k ascii negated, c => k.holds ascii c != negated

/-- The characters that one place of a pattern accepts. -/
structure CharSet where
  negated : Bool
  casing : Casing
  items : List CharItem
deriving DecidableEq, Repr

namespace CharSet

def single (casing : Casing) (code : Nat) : CharSet := ⟨false, casing, [.range code code]⟩

/-- Every character but a line feed. -/
def anyInLine : CharSet := ⟨true, .exact, [.range 0x0A 0x0A]⟩

def any : CharSet := ⟨true, .exact, []⟩

def holds (s : CharSet) (c : Char) : Bool :=
  (s.items.any fun item => item.holds s.casing c) != s.negated

@[simp] theorem holds_any (c : Char) : any.holds c = true := rfl

@[simp] theorem holds_single (code : Nat) (c : Char) :
    (single .exact code).holds c = (decide (code ≤ c.toNat) && decide (c.toNat ≤ code)) := by
  simp [holds, single, CharItem.holds]

end CharSet

end DocSite

import DocSite.Calendar
import DocSite.Dict
import DocSite.Number.Shortest
import DocSite.Text.Quoted

/-! Structured data, as the input files hold it: the values of JSON, and of YAML
with its dates, its moments and its keys that need not be texts. A doclet's further fields,
a configuration and the data of a page are such values. A list or mapping of YAML may
hold itself; it is written out as deep as anything looks into it by name, and left off
there. The module says which values count as false, which keys are the same key, and
how a value is shown as text. -/

namespace DocSite

/-- A value of structured data. -/
inductive Datum
  | null
  | bool (b : Bool)
  | int (n : Int)
  | real (x : Binary64)
  | text (s : String)
  | date (year month day : Nat)
  | moment (m : Moment)
  | list (items : List Datum)
  | dict (entries : List (Datum × Datum))
  | endless
deriving Repr, Inhabited

namespace Datum

/-- Whether a value counts as true: all do but null, false, zero and what is empty. -/
def truthy : Datum → Bool
  | .null => false
  | .bool b => b
  | .int n => n != 0
  | .real x => !x.isZero
  | .text s => s != ""
  | .date .. | .moment _ => true
  | .list items => !items.isEmpty
  | .dict entries => !entries.isEmpty
  | .endless => true

mutual

/-- Whether a value goes on without end. -/
def isEndless : Datum → Bool
  | .endless => true
  | .list items => isEndlessAmong items
  | .dict entries => isEndlessUnder entries
  | _ => false

def isEndlessAmong : List Datum → Bool
  | [] => false
  | item :: items => isEndless item || isEndlessAmong items

def isEndlessUnder : List (Datum × Datum) → Bool
  | [] => false
  | (_, value) :: entries => isEndless value || isEndlessUnder entries

end

/-- The whole number that a value equals as a key; a truth value counts as zero or one. -/
def asKeyNumber? : Datum → Option Int
  | .bool b => some (if b then 1 else 0)
  | .int n => some n
  | .real x => x.toInt?
  | _ => none

/-- Whether two values are the same key of a mapping. Equal numbers are, and a
list or mapping is never a key. -/
def sameKey (a b : Datum) : Bool :=
  match a, b with
  | .null, .null => true
  | .text s, .text t => s == t
  | .date y m d, .date y' m' d' => y == y' && m == m' && d == d'
  | .moment m, .moment m' => m == m'
  | .real x, .real y => (x.isZero && y.isZero) || (x == y && x != .nan)
  | a, b => match a.asKeyNumber?, b.asKeyNumber? with
    | some m, some n => m == n
    | _, _ => false

/-- The value under a key of a list of entries. -/
def lookup? (entries : List (Datum × Datum)) (key : Datum) : Option Datum :=
  (entries.find? fun e => sameKey e.1 key).map (·.2)

/-- Puts a value under a key. A key that is there stays as it was first written. -/
def putEntry (entries : List (Datum × Datum)) (key value : Datum) : List (Datum × Datum) :=
  match entries with
  | [] => [(key, value)]
  | (k, v) :: rest =>
    if sameKey k key then (k, value) :: rest else (k, v) :: putEntry rest key value

/-- The value under a text key, if the value is a mapping that has it. -/
def field? : Datum → String → Option Datum
  | .dict entries, name => lookup? entries (.text name)
  | _, _ => none

/-- A mapping from texts. -/
def ofFields (fields : List (String × Datum)) : Datum :=
  .dict (fields.map fun (name, value) => (.text name, value))

def ofText? : Option String → Datum
  | some s => .text s
  | none => .null

def ofTexts (items : List String) : Datum := .list (items.map .text)

/-- A value that has no parts, as it stands inside a list or a mapping. -/
def atomInside : Datum → String
  | .null => "None"
  | .bool b => if b then "True" else "False"
  | .int n => toString n
  | .real x => x.display
  | .text s => Text.quoted s
  | .date y m d => "datetime.date(" ++ ", ".intercalate [toString y, toString m, toString d] ++ ")"
  | .moment m => m.inFull
  | .list _ => "[]"
  | .dict _ => "\x7b\x7d"
  | .endless => "..."

mutual

/-- A value as it stands inside a list or a mapping: texts are quoted. -/
def inside : Datum → String
  | .list items => "[" ++ ", ".intercalate (insideList items) ++ "]"
  | .dict entries => "\x7b" ++ ", ".intercalate (insideEntries entries) ++ "\x7d"
  | atom => atomInside atom

def insideList : List Datum → List String
  | [] => []
  | item :: items => inside item :: insideList items

def insideEntries : List (Datum × Datum) → List String
  | [] => []
  | (key, value) :: entries => (inside key ++ ": " ++ inside value) :: insideEntries entries

end

/-- A value as text: a text is itself, and a date or a moment its numbers. -/
def display : Datum → String
  | .text s => s
  | .date y m d => Calendar.dateText y m d
  | .moment m => m.text
  | value => inside value

@[simp] theorem display_text (s : String) : display (.text s) = s := rfl

theorem field?_ofFields (fields : List (String × Datum)) (name : String) :
    (ofFields fields).field? name = Dict.get? fields name := by
  rw [ofFields, field?, lookup?]
  induction fields with
  | nil => rfl
  | cons e fields ih =>
    by_cases h : e.1 = name
    · simp [sameKey, Dict.get?, h]
    · simpa [sameKey, Dict.get?, h] using ih

end Datum

end DocSite

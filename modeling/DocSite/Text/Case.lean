import DocSite.Text.CasedTable
import DocSite.Text.TitleTable

/-! Full lower-casing. Every character is mapped by the table, but for two: the
capital I with a dot above becomes an i and a combining dot, and a capital sigma
becomes the final form when it ends a word, that is, when a cased letter stands
before it and none after it, case-ignorable characters being passed over. The first
character of a title has a case of its own. -/

namespace DocSite.Text

def isCased (c : Char) : Bool := inRanges casedRanges c

def isCaseIgnorable (c : Char) : Bool := inRanges caseIgnorableRanges c

/-- The lower case of one character where it does not depend on its neighbours
and is one character. -/
def lowerChar (c : Char) : Char :=
  if c.toNat < 0x80 then c.toLower
  else match lowerRuns.find? (·.holds c.toNat) with
    | some run => Char.ofNat (run.apply c.toNat)
    | none => c

/-- Whether the nearest character that is not case-ignorable is cased. The list
is read away from the place that asks. -/
def nextIsCased (cs : List Char) : Bool :=
  match cs.dropWhile isCaseIgnorable with
  | c :: _ => isCased c
  | [] => false

/-- The lower case of a text, after the characters `before` it in reverse order. -/
def lowerAfter (before : List Char) : List Char → List Char
  | [] => []
  | c :: cs =>
    let rest := lowerAfter (c :: before) cs
    if c == 'Σ' then
      (if nextIsCased before && !nextIsCased cs then 'ς' else 'σ') :: rest
    else if c == 'İ' then 'i' :: '\u0307' :: rest
    else lowerChar c :: rest

def lower (s : String) : String := .ofList (lowerAfter [] s.toList)

/-- What a character becomes at the beginning of a title. -/
def titleChars (c : Char) : List Char :=
  if c.toNat < 0x80 then [c.toUpper]
  else match titleExpansions.lookup c.toNat with
    | some codes => codes.map Char.ofNat
    | none => match titleRuns.find? (·.holds c.toNat) with
      | some run => [Char.ofNat (run.apply c.toNat)]
      | none => [c]

/-- A text with its first letter large and the others small. -/
def capitalized (s : String) : String :=
  match s.toList with
  | [] => ""
  | c :: cs => .ofList (titleChars c ++ lowerAfter [c] cs)

/-- A text with ASCII capitals replaced by small letters and nothing else. -/
def lowerAscii (s : String) : String := .ofList (s.toList.map Char.toLower)

/-- Small letters in groups that share a capital. -/
def sharedCapitals : List (List Char) :=
  [['i', 'ı'], ['s', 'ſ'], ['µ', 'μ'], ['ι', '\u0345', '\u1FBE'], ['ΐ', '\u1FD3'], ['ΰ', '\u1FE3'],
   ['β', 'ϐ'], ['ε', 'ϵ'], ['θ', 'ϑ'], ['κ', 'ϰ'], ['π', 'ϖ'], ['ρ', 'ϱ'], ['σ', 'ς'], ['φ', 'ϕ'],
   ['в', '\u1C80'], ['д', '\u1C81'], ['о', '\u1C82'], ['с', '\u1C83'], ['т', '\u1C84', '\u1C85'],
   ['ъ', '\u1C86'], ['ѣ', '\u1C87'], ['ꙋ', '\u1C88'], ['ṡ', 'ẛ'], ['ﬅ', 'ﬆ']]

/-- The characters that have a character as their lower case. -/
def capitalsOf (c : Char) : List Char :=
  let others := (lowerRuns.flatMap (·.sources c.toNat)).map Char.ofNat
  if c == 'i' then 'I' :: 'İ' :: others else c.toUpper :: others

/-- The characters that a character cannot be told from when the case is ignored. -/
def caseForms (c : Char) : List Char :=
  let small := if c == 'İ' then 'i' else lowerChar c
  c :: ((sharedCapitals.find? (·.contains small)).getD [small]).flatMap fun s =>
    s :: capitalsOf s

/-- Whether a character is a small ASCII letter or sign in either case. Three of
the letters have further forms: a dotless and a dotted capital i, the long s,
and the sign of the unit kelvin. -/
def matchesCaseless (letter c : Char) : Bool :=
  c.toLower == letter || (letter == 'i' && (c == 'ı' || c == 'İ')) ||
    (letter == 's' && c == 'ſ') || (letter == 'k' && c == '\u212A')

/-- What follows a word in small ASCII letters, if the text begins with it in any
case. -/
def afterCaseless? : List Char → List Char → Option (List Char)
  | [], cs => some cs
  | _ :: _, [] => none
  | letter :: word, c :: cs => if matchesCaseless letter c then afterCaseless? word cs else none

@[simp] theorem lowerAfter_nil (before : List Char) : lowerAfter before [] = [] := rfl

theorem lowerAfter_underscore (before : List Char) :
    lowerAfter before ['_'] = ['_'] := by
  have h : lowerChar '_' = '_' := by decide
  simp [lowerAfter, h]

end DocSite.Text

import DocSite.Markdown.Serializer

/-! Fenced code. A fence is a line of three or more tildes or backquotes, and the code ends
with the next line of the same fence. After the first fence stands the name of the
language, or a list of attributes in braces. Fenced code is set aside as it is. -/

namespace DocSite.Markdown

/-- Fenced code: 1 is the fence, 4 the list of attributes, 6 the language and 10 the code. -/
def fencePattern : Pattern := .ofText <|
  "(?ms)(?P<fence>^(?:~\x7b3,\x7d|`\x7b3,\x7d))[ ]*((\\\x7b(?P<attrs>[^\\n]*)\\\x7d)|" ++
  "(\\.?(?P<lang>[\\w#.+-]*)[ ]*)?(hl_lines=(?P<quot>\"|')(?P<lines>.*?)(?P=quot)[ ]*)?)\\n" ++
  "(?P<code>.*?)(?<=\\n)(?P=fence)[ ]*$"

/-- An entry of a list of attributes: 1 and 2 are a name and a value, 3 is a word. -/
def attributePattern : Pattern := .ofText <|
  "(?:([^ =\x7d]+)=(\".*?\"|'.*?'|[^ =\x7d]+)|([^ =\x7d]+)| )"

/-- A value without the quotes around it, if it has them on both sides. -/
def unquoted (cs : List Char) : List Char :=
  match cs with
  | quote :: rest =>
    if (quote == '"' || quote == '\'') && rest.getLast? == some quote then
      ((cs.dropWhile (· == quote)).reverse.dropWhile (· == quote)).reverse
    else cs
  | [] => []

inductive FenceAttribute
  | name (value : List Char)
  | category (value : List Char)
  | other
deriving DecidableEq, Repr

/-- The meaning of an entry of a list of attributes. -/
def attributeOf (f : Pattern.Found) : FenceAttribute :=
  match f.group? 1, f.group 3 with
  | some key, _ =>
    let value := unquoted (f.group 2)
    if key == "id".toList then .name value
    else if key == ['.'] then .category value
    else .other
  | none, '.' :: value => .category value
  | none, '#' :: value => .name value
  | none, word => if word == "id".toList then .name word else .other

/-- The entries of a list of attributes, and what is left where no entry begins. -/
def attributesIn (text : Array Char) : Nat → Nat → List FenceAttribute × List Char
  | 0, start => ([], (text.extract start text.size).toList)
  | fuel + 1, start =>
    match attributePattern.foundAt? text start with
    | none => ([], (text.extract start text.size).toList)
    | some f =>
      let (entries, rest) := attributesIn text fuel f.stop
      (attributeOf f :: entries, rest)

structure FenceInfo where
  id : List Char
  language : List Char
  classes : List (List Char)
deriving DecidableEq, Repr

/-- What a list of attributes tells; nothing if a brace in it ends it too early. -/
def infoOfAttributes (cs : List Char) : Option FenceInfo :=
  let (entries, rest) := attributesIn cs.toArray (cs.length + 1) 0
  if rest.contains '\x7d' then none
  else
    let id := (entries.filterMap fun | .name v => some v | _ => none).getLastD []
    let categories := entries.filterMap fun | .category v => some v | _ => none
    some ⟨id, categories.headD [], categories.tail⟩

def infoOf (f : Pattern.Found) : Option FenceInfo :=
  match f.group 4 with
  | [] => some ⟨[], f.group 6, []⟩
  | attributes => infoOfAttributes attributes

def attributeMarkup (name : String) (value : List Char) : List Char :=
  if value.isEmpty then [] else ' ' :: name.toList ++ "=\"".toList ++ escapeValue value ++ ['"']

def codeMarkup (info : FenceInfo) (code : List Char) : List Char :=
  let language := if info.language.isEmpty then [] else "language-".toList ++ info.language
  let escaped := (escapeCode code).flatMap fun c => if c == '"' then "&quot;".toList else [c]
  "<pre".toList ++ attributeMarkup "id" info.id ++
    attributeMarkup "class" ([' '].intercalate info.classes) ++ "><code".toList ++
    attributeMarkup "class" language ++ ['>'] ++ escaped ++ "</code></pre>".toList

/-- A text, looked through from a position on, with fenced code set aside. -/
def setFencesAside (kept : Kept) : Nat → Nat → List Char → List Char × Kept
  | 0, _, cs => (cs, kept)
  | fuel + 1, start, cs =>
    match fencePattern.find? cs.toArray start with
    | none => (cs, kept)
    | some f =>
      match infoOf f with
      | none => setFencesAside kept fuel ((f.span? 4).map Prod.snd |>.getD f.stop) cs
      | some info =>
        let (aside, kept) := kept.put (codeMarkup info (f.group 10))
        setFencesAside kept fuel (f.start + 1 + aside.length)
          (f.before ++ ['\n'] ++ aside ++ ['\n'] ++ f.after)

@[simp] theorem attributeMarkup_nil (name : String) : attributeMarkup name [] = [] := rfl

end DocSite.Markdown

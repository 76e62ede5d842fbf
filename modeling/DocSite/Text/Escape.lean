/-! Text inside markup. The five characters that markup gives a meaning are
written as references, and every other character as itself, so that an escaped
text can stand between tags and inside a quoted attribute. -/

namespace DocSite.Text

/-- The reference that stands for a character, or the character. -/
def escapeChar : Char → List Char
  | '&' => "&amp;".toList
  | '<' => "&lt;".toList
  | '>' => "&gt;".toList
  | '\'' => "&#39;".toList
  | '"' => "&#34;".toList
  | c => [c]

def escape (s : String) : String := .ofList (s.toList.flatMap escapeChar)

@[simp] theorem escape_empty : escape "" = "" := rfl

theorem toList_escape (s : String) : (escape s).toList = s.toList.flatMap escapeChar := by
  simp [escape]

theorem escape_append (s t : String) : escape (s ++ t) = escape s ++ escape t := by
  simp [escape]

end DocSite.Text

import Typeahead.Text.Basic

namespace Typeahead.Editor

/-! Texts in the editor's single quotes, where a quote is written twice. -/

def escapeChars : List Char → List Char
  | [] => []
  | character :: rest =>
    if character = '\'' then '\'' :: '\'' :: escapeChars rest else character :: escapeChars rest

/-- A text as it stands between single quotes. -/
def escape (text : String) : String := String.ofList (escapeChars text.toList)

end Typeahead.Editor

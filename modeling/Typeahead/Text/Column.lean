namespace Typeahead.Text

/-! Texts brought to a least width. -/

def blanks (count : Nat) : String := String.ofList (List.replicate count ' ')

/-- The text at the left of a column. -/
def flushLeft (width : Nat) (text : String) : String := text ++ blanks (width - text.length)

/-- The text at the right of a column. -/
def flushRight (width : Nat) (text : String) : String := blanks (width - text.length) ++ text

end Typeahead.Text

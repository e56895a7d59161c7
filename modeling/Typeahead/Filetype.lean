import Typeahead.Value.Access

namespace Typeahead.Filetype

/-! The filetypes whose files a compiler front end of the C family can read. -/

def cFamily : List String := ["c", "cpp", "objc", "objcpp"]

def isCFamily (filetype : Value) : Except Fault Bool :=
  match filetype with
  | .text name => .ok (cFamily.contains name)
  | .list _ | .record _ => .error (filetype.wrongKind "unhashable type: " "")
  | _ => .ok false

/-- Whether one of several filetypes is in the family. -/
def inCFamily (filetypes : Value) : Except Fault Bool := do
  return (← (← filetypes.elements).mapM isCFamily).contains true

end Typeahead.Filetype

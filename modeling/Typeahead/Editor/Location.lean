import Typeahead.Editor.Basic

namespace Typeahead.Editor

/-! Diagnostics in the editor's location list. -/

/-- A diagnostic as an item of the list, where lines and columns count from 1. -/
def locationItem (diagnostic : Value) : Act Workspace Value := do
  let location ← diagnostic.field "location"
  let buffer ← bufferNumber (← location.field "filepath") true
  let line ← (← location.field "line_num").plus (.int 1)
  let column ← (← location.field "column_num").plus (.int 1)
  let text ← diagnostic.field "text"
  let kind ← diagnostic.field "kind"
  return .record [("bufnr", .int buffer), ("lnum", line), ("col", column), ("text", .text text.display),
    ("type", kind), ("valid", .int 1)]

def locationItems (diagnostics : Value) : Act Workspace Value := do
  let mut items : List Value := []
  for diagnostic in ← diagnostics.elements do
    items := items ++ [← locationItem diagnostic]
  return .list items

def setLocationList (items : Value) : Act Workspace Unit := do
  let _ ← evaluate ("setloclist( 0, " ++ items.exchange ++ " )")

end Typeahead.Editor

import Typeahead.Editor.Basic

namespace Typeahead.Editor

/-! What the server is told about the place where the user works. -/

/-- The data of a request: the place of the cursor, and the unsaved buffers unless they are left out. -/
def requestData (start query : Value) (withBuffers : Bool) : Act Workspace Value.Fields := do
  let (line, column) ← lineAndColumn
  let path ← currentPath
  let filetypes ← filetypes
  let fields : Value.Fields := [("filetypes", Value.texts filetypes), ("line_num", line), ("column_num", column),
    ("start_column", start), ("line_value", ← currentLine), ("filepath", .text path)]
  let fields ← if withBuffers then do pure (fields ++ [("file_data", ← unsavedContents)]) else pure fields
  return if query.isPresent then fields ++ [("query", query)] else fields

/-- The data of a request without buffers, with the column where the completion starts. -/
def placeData : Act Workspace Value := do
  let fields ← requestData .null .null false
  return .record (fields.set "start_column" (.int (← completionStart)))

end Typeahead.Editor

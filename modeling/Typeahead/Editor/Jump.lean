import Typeahead.Editor.Basic

namespace Typeahead.Editor

/-! Going to a place in a file. -/

/-- The command that opens a file, by the way the user prefers. -/
def openCommand (preference : Value) : Except Fault String :=
  match preference with
  | .text "same-buffer" => .ok "edit"
  | .text "horizontal-split" => .ok "split"
  | .text "vertical-split" => .ok "vsplit"
  | .text "new-tab" => .ok "tabedit"
  | .list _ => .error (.wrongKind "unhashable type: 'list'")
  | .record _ => .error (.wrongKind "unhashable type: 'dict'")
  | _ => .ok "edit"

/-- Goes to a line and a column of a file, both counted from 1. -/
def jump (path line column : Value) : Act Workspace Unit := do
  command "normal! m'"
  if !path.same (.text (← currentPath)) then
    let preferred ← openCommand (← Workspace.option "goto_buffer_command")
    let opening ← if preferred == "edit" then do
        pure (if ← isUsable (← buffer) then "edit" else "split")
      else pure preferred
    command ("keepjumps " ++ opening ++ " " ++ path.display)
  setCursor line (← column.minus (.int 1))
  command "normal! zz"

end Typeahead.Editor

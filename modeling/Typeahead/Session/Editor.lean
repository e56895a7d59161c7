import Typeahead.Session.Surroundings
import Typeahead.Editor.Jump
import Typeahead.Editor.Location
import Typeahead.Editor.Mark
import Typeahead.Editor.Message
import Typeahead.Editor.Request
import Typeahead.Editor.Setting
import Typeahead.Insertion
import Typeahead.Machine

namespace Typeahead.Session

/-! Steps on the editor alone. -/

/-- The arguments of a step, of which there have to be some and may not be too many. -/
def argumentsOf (step : Value) (least most : Nat) : Except Fault (List Value) := do
  let arguments := itemsOf (← step.field "args")
  if arguments.length < least || most < arguments.length then
    .error (.wrongKind ("between " ++ toString least ++ " and " ++ toString most ++ " arguments are needed"))
  return arguments

/-- An argument, or another value where there are not so many. -/
def argumentOr (arguments : List Value) (index : Nat) (otherwise : Value) : Value := arguments[index]?.getD otherwise

def pair (values : Value × Value) : Value := .list [values.1, values.2]

def cursorSteps : String → Value → Option (Act Workspace Value)
  | "vim", step => some do
    let script ← step.field "set"
    modify fun workspace => { workspace with editor := setEditorAnswers script workspace.editor }
    return .null
  | "http", step => some do
    let script ← step.field "set"
    modify fun workspace => { workspace with wire := setReplies script workspace.wire }
    return .null
  | "popen", step => some do scriptStep "popen" (← step.field "set")
  | "cursor", step => some do
    let (line, column) := cursorOf (← step.field "cursor")
    Editor.setCursor line column
    return .null
  | "get_cursor", _ => some do return pair (← Editor.getCursor)
  | "start_column", _ => some do return .int (← Editor.completionStart)
  | "identifier_finished", _ => some do return .bool (← Editor.identifierFinished)
  | "last_char_is_identifier", _ => some do return .bool (← Editor.lastIsIdentifier)
  | "adjust", step => some do
    let candidates ← step.field "candidates"
    let following ← Editor.textAfterCursor
    if following.isPresent then Insertion.adjust (← following.asText) candidates else return candidates
  | "line_and_column", _ => some do return pair (← Editor.lineAndColumn)
  | "text_after_cursor", _ => some Editor.textAfterCursor
  | _, _ => none

def bufferSteps : String → Value → Option (Act Workspace Value)
  | "server_conf", _ => some Editor.serverOptions
  | "load_defaults", _ => some do
    Editor.addDefaults
    return .null
  | "compatible", _ => some do return .bool (Editor.isCompatible (← get))
  | "buffer_data", _ => some Editor.unsavedContents
  | "buffer_number", step => some do
    return .int (← Editor.bufferNumber (← step.field "filename") (flagOr step "open" true))
  | "current_filepath", _ => some do return .text (← Editor.currentPath)
  | "buffer_visible", step => some do return .bool (← Editor.isVisible (← (← step.field "number").asInt))
  | "usable", _ => some do return .bool (← Editor.isUsable (← Editor.buffer))
  | "num_lines", _ => some do return .int (← Editor.buffer).lines.length
  | "load_globals", step => some do
    Editor.addGlobals (← step.field "globals") (flagOr step "overwrite" true)
    return .null
  | "globals", step => some (Editor.getGlobals (flagOr step "force" false))
  | "to_python", step => some do Editor.evaluateNumber (← textField step "expression")
  | "bool_value", step => some do return .bool (← Editor.evaluateFlag (← textField step "variable"))
  | "int_value", step => some do return .int (← Editor.evaluateInt (← textField step "variable"))
  | "filetypes", _ => some do return Value.texts (← Editor.filetypes)
  | "interpreter", _ => some Machine.interpreter
  | "syntax_keywords", _ => some do return Value.texts (← Editor.highlightKeywords)
  | "request_data", step => some do
    let fields ← Editor.requestData (fieldOr step "start_column" .null) (fieldOr step "query" .null)
      (flagOr step "buffers" true)
    return .record fields
  | _, _ => none

def markSteps : String → Value → Option (Act Workspace Value)
  | "unplace_signs", step => some do
    Editor.unplaceSigns (← (← step.field "number").asInt)
    return .null
  | "place_sign", step => some do
    let arguments ← argumentsOf step 3 4
    let text (index : Nat) : String := (argumentOr arguments index .null).display
    let isError := (argumentOr arguments 3 (.bool true)).isPresent
    Editor.command (Editor.SignCommand.placeText (text 0) (text 1) (text 2) isError)
    return .null
  | "clear_matches", _ => some do
    Editor.clearHighlights
    return .null
  | "add_match", step => some do
    let arguments ← argumentsOf step 2 5
    let argument := argumentOr arguments
    let id ← Editor.highlight (argument 0 .null) (argument 1 .null) (argument 2 .null) (argument 3 .null)
      (argument 4 (.bool true)).isPresent
    return .int id
  | "clamp", step => some do
    let arguments ← argumentsOf step 2 2
    return pair (← Editor.clamp (argumentOr arguments 0 .null) (argumentOr arguments 1 .null))
  | "location_list", step => some do
    Editor.setLocationList (← step.field "diagnostics")
    return .null
  | "qf_list", step => some do Editor.locationItems (← step.field "diagnostics")
  | "jump", step => some do
    let arguments ← argumentsOf step 3 3
    let argument := argumentOr arguments
    Editor.jump (argument 0 .null) (argument 1 .null) (argument 2 .null)
    return .null
  | _, _ => none

def messageSteps : String → Value → Option (Act Workspace Value)
  | "post_message", step => some do
    Editor.postMessage (← step.field "message").display
    return .null
  | "post_notice", step => some do
    Editor.postNotice (← step.field "message").display
    return .null
  | "dialog", step => some do
    let arguments ← argumentsOf step 2 3
    let message ← (argumentOr arguments 0 .null).asTextFor "replace"
    let choices ← (argumentOr arguments 1 .null).asTexts
    return .int (← Editor.dialog message choices (argumentOr arguments 2 (.int 0)))
  | "confirm", step => some do return .bool (← Editor.confirm (← (← step.field "message").asTextFor "replace"))
  | "echo", step => some do
    Editor.showText (flagOr step "log" true) (← step.field "text").display
    return .null
  | "echo_width", step => some do
    Editor.showWithinWidth (← step.field "text").display
    return .null
  | _, _ => none

/-- Steps on the editor, if the name is one of them. -/
def editorSteps (name : String) (step : Value) : Option (Act Workspace Value) :=
  (cursorSteps name step).or ((bufferSteps name step).or ((markSteps name step).or (messageSteps name step)))

end Typeahead.Session

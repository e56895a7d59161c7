import Typeahead.Session.Surroundings
import Typeahead.Frontend.Engine
import Typeahead.Frontend.Database

namespace Typeahead.Session

/-! Sessions with the engine for the C family, and with databases of compilations. -/

/-- A text as an argument of a native operation. -/
def nativeText (step : Value) (key : String) : Except Fault String := do
  match ← step.field key with
  | .text content => return content
  | _ => .error .wrongArgument

def nativeInt (step : Value) (key : String) : Except Fault Int := do
  match ← step.field key with
  | .int number => return number
  | .bool truth => return if truth then 1 else 0
  | _ => .error .wrongArgument

def unsavedOf (step : Value) : Except Fault Frontend.Unsaved := do
  (← (fieldOr step "unsaved" (.list [])).elements).mapM fun entry => do
    return (← (← entry.item 0).asText, ← (← entry.item 1).asText)

def locationValue (location : Frontend.Location) : Value :=
  .list [.text location.path, .int location.line, .int location.column, .bool location.isValid]

def rangeValue (range : Frontend.Range) : Value := .list [locationValue range.start, locationValue range.stop]

def diagnosticValue (diagnostic : Frontend.Diagnostic) : Value :=
  .record [("location", locationValue diagnostic.location), ("extent", rangeValue diagnostic.extent),
    ("ranges", .list (diagnostic.ranges.map rangeValue)), ("kind", .text diagnostic.kind),
    ("text", .text diagnostic.text), ("long", .text diagnostic.long)]

def completionValue (completion : Frontend.Completion) : Value :=
  .record [("insert", .text completion.insertion), ("main", .text completion.menu),
    ("extra", .text completion.returnType), ("detailed", .text completion.detailed),
    ("kind", .text completion.kind)]

def engineSteps : Steps Frontend.Engine := fun name step => do
  let file := nativeText step "filename"
  let line := nativeInt step "line"
  let column := nativeInt step "column"
  let flags := textsField step "flags"
  let unsaved := unsavedOf step
  match name with
  | "updating" => return .bool (← Frontend.Engine.isUpdating (← file))
  | "update" =>
    return .list ((← Frontend.Engine.update (← file) (← flags) (← unsaved)).map diagnosticValue)
  | "candidates" =>
    let found ← Frontend.Engine.completions (← file) (← line) (← column) (← flags) (← unsaved)
    return .list (found.map completionValue)
  | "definition" | "declaration" =>
    let ask := if name == "definition" then Frontend.Engine.definition else Frontend.Engine.declaration
    return locationValue (← ask (← file) (← line) (← column) (← flags) (← unsaved) (flagOr step "reparse" true))
  | "delete" =>
    Frontend.Engine.delete (← file)
    return .null
  | "libclang" => scriptStep name (← step.field "script")
  | _ => unknownStep name

def compilationSteps : Steps Frontend.Database := fun name step => do
  let (database, workspace) ← get
  match name with
  | "loaded" => return .bool database.isLoaded
  | "busy" => return .bool false
  | "info" =>
    let found := database.compilation (workspace.frontend.getD {}) (← nativeText step "filename")
    return .list [.text found.folder, Value.texts found.flags]
  | _ => unknownStep name

end Typeahead.Session

import Typeahead.Value.Access
import Typeahead.Frontend.Diagnostic

namespace Typeahead.Response

/-! The records that answers are made of. -/

/-- Adds a field if its value counts as present. -/
def addPresent (fields : Value.Fields) (key : String) (value : Value) : Value.Fields :=
  if value.isPresent then fields ++ [(key, value)] else fields

/-- What belongs to a completion besides the text it inserts. -/
structure Details where
  extra : Value := .null
  detailed : Value := .null
  menu : Value := .null
  kind : Value := .null

/-- One completion. -/
def completion (insertion : Value) (details : Details) : Value :=
  let fields := addPresent [("insertion_text", insertion)] "extra_menu_info" details.extra
  let fields := addPresent fields "menu_text" details.menu
  let fields := addPresent fields "detailed_info" details.detailed
  .record (addPresent fields "kind" details.kind)

/-- A place to go to; `real` resolves its path. -/
def goTo (real : String → String) (path line column description : Value) : Except Fault Value :=
  match path with
  | .text path => .ok (.record (addPresent [("filepath", .text (real path)), ("line_num", line),
      ("column_num", column)] "description" description))
  | value => .error (value.wrongKind "expected str, bytes or os.PathLike object, not " "")

def description (text : Value) : Value := .record [("description", text)]

def message (text : Value) : Value := .record [("message", text)]

/-- A place in a file, counted from 0. -/
def location (location : Frontend.Location) : Value :=
  .record [("line_num", .int (location.line - 1)), ("column_num", .int (location.column - 1)),
    ("filepath", .text location.path)]

def range (range : Frontend.Range) : Value :=
  .record [("start", location range.start), ("end", location range.stop)]

def diagnostic (diagnostic : Frontend.Diagnostic) : Value :=
  .record [("ranges", .list (diagnostic.ranges.map range)), ("location", location diagnostic.location),
    ("location_extent", range diagnostic.extent), ("text", .text diagnostic.text), ("kind", .text diagnostic.kind)]

/-- Checks the names of arguments: all that are needed and no others. -/
def checkArguments (arguments : Value.Fields) (needed allowed : List String) : Except Fault Unit :=
  if arguments.all (fun (name, _) => allowed.contains name) && needed.all (Value.Fields.has arguments) then .ok ()
  else .error (.wrongKind "wrong arguments")

/-- A completion from named arguments. -/
def completionOf (arguments : Value.Fields) : Except Fault Value := do
  checkArguments arguments ["insertion_text"]
    ["insertion_text", "extra_menu_info", "detailed_info", "menu_text", "kind"]
  let value (name : String) := (Value.Fields.get? arguments name).getD .null
  return completion (value "insertion_text")
    ⟨value "extra_menu_info", value "detailed_info", value "menu_text", value "kind"⟩

/-- A place to go to from named arguments. -/
def goToOf (real : String → String) (arguments : Value.Fields) : Except Fault Value := do
  checkArguments arguments ["filepath", "line_num", "column_num"]
    ["filepath", "line_num", "column_num", "description"]
  let value (name : String) := (Value.Fields.get? arguments name).getD .null
  goTo real (value "filepath") (value "line_num") (value "column_num") (value "description")

/-- A completion as the editor's menu takes it. -/
def editorItem (completion : Value) : Except Fault Value := do
  let word ← completion.field "insertion_text"
  let parts := [("menu_text", "abbr"), ("extra_menu_info", "menu"), ("kind", "kind"), ("detailed_info", "info")]
  let shown := parts.filterMap fun (key, name) =>
    (completion.field? key).map fun value => (name, Value.text value.display)
  return .record ([("word", .text word.display), ("dup", .int 1)] ++ shown)

/-- A place to go to as an item of the editor's list. -/
def listItem (place : Value) : Except Fault Value := do
  let name := ((place.field? "filepath").map fun value => ("filename", Value.text value.display)).toList
  let text := ((place.field? "description").map fun value => ("text", Value.text value.display)).toList
  let line ← match place.field? "line_num" with
    | some line => do pure [("lnum", ← line.plus (.int 1))]
    | none => pure []
  let column := ((place.field? "column_num").map fun value => ("col", value)).toList
  return .record (name ++ text ++ line ++ column)

end Typeahead.Response

import Typeahead.Editor.Basic
import Typeahead.Options

namespace Typeahead.Editor

/-! The user's options, which are kept in variables of the editor. -/

def optionStart : String := "ycm_"

/-- A value as an option: a number where it stands for one. -/
def optionValue (value : Value) : Value :=
  match value.toInt with
  | .ok number => .int number
  | .error _ => value

/-- The options for the server, from the editor's global variables. -/
def serverOptions : Act Workspace Value := do
  let globals ← (← getGlobals true).asFields
  let options := globals.foldl (fun (options : Value.Fields) (name, value) =>
    if Text.startsWith name optionStart then options.set (Text.drop optionStart.length name) (optionValue value)
    else options) []
  return .record options

/-- Gives the editor those options the user has not set. -/
def addDefaults : Act Workspace Unit :=
  addGlobals (.record (Options.defaults.map fun (name, value) => (optionStart ++ name, value))) false

/-- The version of the native part that this program works with. -/
def neededVersion : Value := .int 9

def isCompatible (workspace : Workspace) : Bool :=
  match workspace.coreVersion with
  | some version => version.same neededVersion
  | none => false

end Typeahead.Editor

import Typeahead.Completer.Basic
import Typeahead.Editor.Message
import Typeahead.Editor.Request

namespace Typeahead.Completer

/-! Completions from the editor's own completion function, which is known by its name. -/

structure OmniState where
  core : Core
  /-- The name of the function, once the editor has told it. -/
  function : Value := .null

namespace OmniState

abbrev Doing := Act (OmniState × Workspace)

def badValue : String := "Omnifunc returned bad value to YCM!"

def notList : String := "Omnifunc did not return a list or a dict with a \"words\"  list when expected."

/-- The failures that are put down to the function. -/
def isFunctionsFault : Fault → Bool
  | .wrongKind _ | .refused _ | .notNumeral _ | .notReadable | .editor _ => true
  | _ => false

/-- The items in what the function returns: a list, or a record with one. -/
def itemsIn (returned : Value) : Except Fault (List Value) := do
  let items ← if ← returned.holds (.text "words") then returned.field "words" else pure returned
  match items.elements with
  | .ok items => return items.filter (·.isPresent)
  | .error _ => .error (.wrongKind notList)

/-- Asks the function where the completion starts, and then for the items. -/
def ask (function request : Value) : Act Workspace Value := do
  let start ← Editor.evaluateInt (← (← function.plus (.text "(1,\"\")")).asText)
  if start < 0 then return .list []
  let query ← (← request.field "query").asTextFor "replace"
  let returned ← Editor.evaluate (function.display ++ "(0,'" ++ Editor.escape query ++ "')")
  return .list (← itemsIn returned)

/-- The items of the function; when it fails, the user is told and there are none. -/
def gather (request : Value) : Doing Value := do
  let function := (← get).1.function
  if !function.isPresent then return .list []
  tryCatch (ask function request : Act Workspace Value) fun fault => do
    if !isFunctionsFault fault then throw fault
    Editor.postMessage (badValue ++ " " ++ fault.text)
    return .list []

def applies (request : Value) : Doing Bool := do
  if !(← get).1.function.isPresent then return false
  appliesByTrigger (·.core) [] request

/-- The completer without the choice of whether it keeps items. -/
def keeping : Completer OmniState where
  core := (·.core)
  putCore core state := { state with core }
  supported := []
  applies := applies
  gather := gather

def usesCache : Doing Bool := do return (← (← get).1.core.settings.option "cache_omnifunc").isPresent

/-- Whether to ask the function at a place, by default that of the cursor. -/
def shouldUse (request : Value) : Doing Bool := do
  if !(← get).1.function.isPresent then return false
  let request ← if request.isPresent then pure request else (Editor.placeData : Act Workspace Value)
  if ← usesCache then keeping.shouldUse request else applies request

/-- The completer as it is used when it keeps items. -/
def deciding : Completer OmniState := { keeping with decides := some shouldUse }

def compute (request : Value) : Doing Value := do
  if ← usesCache then deciding.compute request
  else if ← applies request then gather request
  else return .list []

/-- Learns which function the editor has for the current buffer. -/
def learn : Doing Unit := do
  let function ← (Editor.evaluate "&omnifunc" : Act Workspace Value)
  modify fun (state, workspace) => ({ state with function }, workspace)

end OmniState

end Typeahead.Completer

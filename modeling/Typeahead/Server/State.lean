import Typeahead.Completer.Available
import Typeahead.Completer.General
import Typeahead.Completer.Semantic
import Typeahead.Completer.Analyzed
import Typeahead.Completer.Solution

namespace Typeahead.Server

/-! What the completion server keeps: its options, the general completers, and a completer for each filetype
that has been asked for. One completer may serve several filetypes. -/

/-- A completer for some filetypes. -/
inductive FiletypeCompleter where
  | semantic (state : Completer.SemanticState)
  | analyzed (state : Completer.AnalyzedState)
  | solution (state : Completer.SolutionState)

namespace FiletypeCompleter

def supported : FiletypeCompleter → List String
  | .semantic _ => Completer.semantic.supported
  | .analyzed _ => Completer.analyzed.supported
  | .solution _ => Completer.solution.supported

/-- Does with a completer what can be done with any. -/
def use {α : Type} (act : (σ : Type) → Completer σ → Act (σ × Workspace) α) :
    Act (FiletypeCompleter × Workspace) α := fun (completer, workspace) =>
  match completer with
  | .semantic state =>
    let (result, state, workspace) := (act _ Completer.semantic).run (state, workspace)
    (result, .semantic state, workspace)
  | .analyzed state =>
    let (result, state, workspace) := (act _ Completer.analyzed).run (state, workspace)
    (result, .analyzed state, workspace)
  | .solution state =>
    let (result, state, workspace) := (act _ Completer.solution).run (state, workspace)
    (result, .solution state, workspace)

/-- The completer that the hook of a name makes. Those for the C family need the native engine. -/
def ofHook? (workspace : Workspace) (name : String) (core : Completer.Core) : Option FiletypeCompleter :=
  if Filetype.cFamily.contains name then
    if workspace.hasNativeEngine then some (.semantic { core }) else none
  else if name == "python" then some (.analyzed { core })
  else if name == "cs" then some (.solution { core })
  else none

end FiletypeCompleter

structure State where
  options : Value.Fields
  general : Completer.GeneralState
  completers : List FiletypeCompleter := []
  /-- Which of the completers serves a filetype, if one does. -/
  served : List (String × Option Nat) := []

abbrev Doing := Act (State × Workspace)

namespace State

def ofOptions (options : Value.Fields) : Except Fault State := do
  return { options, general := ← Completer.GeneralState.ofOptions options }

/-- The state for options that are given as a value, which has to be a record. -/
def ofValue (options : Value) : Except Fault State :=
  match options with
  | .record fields => ofOptions fields
  | value => do
    let _ ← value.field "min_num_of_chars_for_completion"
    ofOptions []

def core (state : State) : Completer.Core := { settings := state.general.core.settings }

variable {α : Type}

def onGeneral (act : Completer.GeneralState.Doing α) : Doing α :=
  Act.on (fun (state, workspace) => (state.general, workspace))
    (fun (general, workspace) (state, _) => ({ state with general }, workspace)) act

/-- Does something with the completer of a number. -/
def onCompleter (index : Nat) (act : (σ : Type) → Completer σ → Act (σ × Workspace) α) : Doing α := fun (state, workspace) =>
  match state.completers[index]? with
  | some completer =>
    let (result, completer, workspace) := (FiletypeCompleter.use act).run (completer, workspace)
    (result, { state with completers := state.completers.set index completer }, workspace)
  | none => (.error .outOfRange, state, workspace)

/-- The completer for one filetype. It is made when it is first asked for, and then serves all filetypes it
supports. -/
def forFiletype (filetype : Value) : Doing (Option Nat) := do
  let name ← match filetype with
    | .text name => pure name
    | .list _ | .record _ => throw (filetype.wrongKind "unhashable type: " "")
    | value => throw (value.wrongKind "join() argument must be str, bytes, or os.PathLike object, not " "")
  let (state, workspace) ← get
  match state.served.lookup name with
  | some known => return known
  | none =>
    let hook := Completer.hookPath workspace name
    let made := if workspace.has hook then
        FiletypeCompleter.ofHook? workspace (Path.name (Path.folder (workspace.real hook))) state.core
      else none
    match made with
    | some completer =>
      let index := state.completers.length
      let served := (name :: completer.supported).foldl (fun served name => Table.put name (some index) served)
        state.served
      set ({ state with completers := state.completers ++ [completer], served }, workspace)
      return some index
    | none =>
      set ({ state with served := Table.put name none state.served }, workspace)
      return none

/-- The completer for the first of several filetypes that has one. All of them are looked up. -/
def forFiletypes (filetypes : Value) : Doing Nat := do
  let mut found := []
  for filetype in ← filetypes.elements do
    found := found ++ [← forFiletype filetype]
  match found.filterMap id with
  | index :: _ => return index
  | [] => throw (.refused ("No semantic completer exists for filetypes: " ++ filetypes.display))

def isAvailable (filetypes : Value) : Doing Bool := Act.succeeds (forFiletypes filetypes)

/-- Whether completion of its own is switched on for one of the filetypes. -/
def isEnabled (filetypes : Value) : Doing Bool := do
  let (state, _) ← get
  let disabled ← match state.options.lookup "filetype_specific_completion_to_disable" with
    | some value => pure value
    | none => throw (.missing (.text "filetype_specific_completion_to_disable"))
  let mut all := true
  for filetype in ← filetypes.elements do
    let isDisabled ← disabled.holds filetype
    all := all && isDisabled
  return !all

def isUsable (filetypes : Value) : Doing Bool := do
  if ← isEnabled filetypes then isAvailable filetypes else return false

def shouldUseGeneral (request : Value) : Doing Bool := onGeneral (Completer.general.shouldUse request)

def shouldUseFiletype (request : Value) : Doing Bool := do
  let filetypes ← request.field "filetypes"
  if !(← isUsable filetypes) then return false
  if ← Completer.isForced request then return true
  onCompleter (← forFiletypes filetypes) fun _ completer => completer.shouldUse request

def shutdown : Doing Unit := do
  for (_, served) in (← get).1.served do
    if let some index := served then onCompleter index fun _ completer => completer.shutdown
  onGeneral Completer.general.shutdown

end State

end Typeahead.Server

import Typeahead.Completer.Identifier
import Typeahead.Completer.FileName
import Typeahead.Completer.Snippet

namespace Typeahead.Completer

/-! The completers that work for every filetype, as one. File names take precedence; otherwise identifiers
and snippets are offered together. -/

inductive Part where
  | identifiers
  | fileNames
  | snippets
  deriving DecidableEq, Repr

structure GeneralState where
  core : Core
  identifiers : IdentifierState
  fileNames : FileNameState
  snippets : SnippetState
  /-- The completers the last request is for. -/
  current : List Part := []

namespace GeneralState

abbrev Doing := Act (GeneralState × Workspace)

def ofOptions (options : Value.Fields) : Except Fault GeneralState := do
  let core : Core := { settings := ← Settings.ofOptions options }
  return { core, identifiers := { core }, fileNames := { core }, snippets := { core } }

variable {α : Type}

def onIdentifiers (act : IdentifierState.Doing α) : Doing α :=
  Act.on (fun (state, workspace) => (state.identifiers, workspace))
    (fun (identifiers, workspace) (state, _) => ({ state with identifiers }, workspace)) act

def onFileNames (act : FileNameState.Doing α) : Doing α :=
  Act.on (fun (state, workspace) => (state.fileNames, workspace))
    (fun (fileNames, workspace) (state, _) => ({ state with fileNames }, workspace)) act

def onSnippets (act : SnippetState.Doing α) : Doing α :=
  Act.on (fun (state, workspace) => (state.snippets, workspace))
    (fun (snippets, workspace) (state, _) => ({ state with snippets }, workspace)) act

def setCurrent (current : List Part) : Doing Unit :=
  modify fun (state, workspace) => ({ state with current }, workspace)

def shouldUse (request : Value) : Doing Bool := do
  setCurrent []
  if ← onFileNames (fileName.shouldUse request) then
    setCurrent [.fileNames]
    return true
  let useIdentifiers ← onIdentifiers (identifier.shouldUse request)
  if useIdentifiers then setCurrent [.identifiers]
  let (state, _) ← get
  let hasSnippets := ((state.core.settings.options.lookup "use_ultisnips_completer").getD (.bool true)).isPresent
  if !hasSnippets then return useIdentifiers
  let useSnippets ← onSnippets (snippet.shouldUse request)
  if useSnippets then setCurrent ((← get).1.current ++ [.snippets])
  return useIdentifiers || useSnippets

def computePart (request : Value) : Part → Doing Value
  | .identifiers => onIdentifiers (identifier.compute request)
  | .fileNames => onFileNames (fileName.compute request)
  | .snippets => onSnippets (snippet.compute request)

def compute (request : Value) : Doing Value := do
  if !(← shouldUse request) then return .list []
  let mut found : List Value := []
  for part in (← get).1.current do
    found := found ++ (← (← computePart request part).elements)
  return .list found

def notice (notice : Notice) (request : Value) : Doing Value := do
  let _ ← onIdentifiers (identifier.notice notice request)
  let _ ← onFileNames (fileName.notice notice request)
  let _ ← onSnippets (snippet.notice notice request)
  return .null

def shutdown : Doing Unit := do
  onIdentifiers identifier.shutdown
  onFileNames fileName.shutdown
  onSnippets snippet.shutdown

end GeneralState

def general : Completer GeneralState where
  core := (·.core)
  putCore core state := { state with core }
  supported := []
  applies := appliesByTrigger (·.core) []
  gather _ := return .null
  decides := some GeneralState.shouldUse
  computes := some GeneralState.compute
  notice := GeneralState.notice
  shutdown := GeneralState.shutdown

end Typeahead.Completer

import Typeahead.Completer.Cache
import Typeahead.Flags.Cache
import Typeahead.Trigger
import Typeahead.Ranking.Items

namespace Typeahead

namespace Completer

/-! What all completers share: when they are used, how they keep completions, and how these are filtered
by what has been typed. -/

/-- The options that completers are made with. -/
structure Settings where
  options : Value.Fields
  minimum : Value
  triggers : TriggerTable

namespace Settings

def option (settings : Settings) (key : String) : Except Fault Value :=
  match settings.options.lookup key with
  | some value => .ok value
  | none => .error (.missing (.text key))

def ofOptions (options : Value.Fields) : Except Fault Settings := do
  let bare : Settings := ⟨options, .null, []⟩
  let minimum ← bare.option "min_num_of_chars_for_completion"
  let triggers ← if (← bare.option "auto_trigger").isPresent then
      TriggerTable.withUser (← bare.option "semantic_triggers")
    else pure []
  return ⟨options, minimum, triggers⟩

end Settings

/-- The part of its state that every completer has. -/
structure Core where
  settings : Settings
  cache : Cache := {}

/-- What an editor reports. -/
inductive Notice where
  | fileReadyToParse
  | bufferVisit
  | bufferUnload
  | insertLeave
  | identifierFinished
  deriving DecidableEq, Repr

def Notice.ofName? : String → Option Notice
  | "FileReadyToParse" => some .fileReadyToParse
  | "BufferVisit" => some .bufferVisit
  | "BufferUnload" => some .bufferUnload
  | "InsertLeave" => some .insertLeave
  | "CurrentIdentifierFinished" => some .identifierFinished
  | _ => none

/-- A notice by the name under which it is sent. -/
def Notice.ofName (name : String) : Except Fault Notice :=
  match Notice.ofName? name with
  | some notice => .ok notice
  | none =>
    if name == "UserCommand" then .error (.wrongKind "a command needs a request")
    else .error (.noFeature ("no notice is called " ++ name))

/-- The filetype of a request that counts: the first supported one, or else the first. -/
def currentFiletype (supported : List String) (filetypes : Value) : Except Fault Value := do
  let known := (← filetypes.elements).find? fun filetype => supported.any fun name => filetype.same (.text name)
  match known with
  | some filetype => return filetype
  | none => filetypes.item 0

/-- Whether a trigger of the filetype stands where the completion starts. -/
def triggerStandsBefore (triggers : TriggerTable) (supported : List String) (request : Value) :
    Except Fault Bool := do
  let line ← request.field "line_value"
  let column ← request.field "start_column"
  let length ← line.size
  if length == 0 then return false
  if !(← (← column.minus (.int 1)).less (.int length)) then return false
  let filetype ← currentFiletype supported (← request.field "filetypes")
  let triggers := match filetype with
    | .text filetype => TriggerTable.triggers triggers filetype
    | _ => []
  Trigger.anyEndsAt (← line.asText).toList (← column.asInt) triggers

/-- Whether the request asks for completions whatever stands before the cursor. -/
def isForced (request : Value) : Except Fault Bool := do
  if ← request.holds (.text "force_semantic") then return (← request.field "force_semantic").isPresent
  else return false

/-- Whether enough characters have been typed. -/
def isLongEnough (minimum request : Value) : Except Fault Bool := do
  let typed ← (← request.field "column_num").minus (← request.field "start_column")
  return !(← typed.less minimum)

def noCommands : String := "This completer does not define any commands."

/-- A summary of the commands a completer has. -/
def helpText (subcommands : List String) : String :=
  if subcommands.isEmpty then "This Completer has no supported subcommands."
  else "Supported commands are:\n" ++ Text.join "\n" subcommands ++ "\nSee the docs for information on what they do."

end Completer

/-- How a completer with state `σ` answers. -/
structure Completer (σ : Type) where
  core : σ → Completer.Core
  putCore : Completer.Core → σ → σ
  supported : List String
  subcommands : List String := []
  /-- Whether a request is for this completer, kept completions aside. -/
  applies : Value → Act (σ × Workspace) Bool
  /-- The candidates of a request, before they are filtered. -/
  gather : Value → Act (σ × Workspace) Value
  /-- Where set, decides on its own whether the completer is used. -/
  decides : Option (Value → Act (σ × Workspace) Bool) := none
  /-- Where set, computes the answer without keeping candidates. -/
  computes : Option (Value → Act (σ × Workspace) Value) := none
  notice : Completer.Notice → Value → Act (σ × Workspace) Value := fun _ _ => return .null
  command : Value → Value → Act (σ × Workspace) Value := fun _ _ => throw (.notImplemented Completer.noCommands)
  detailedDiagnostic : Value → Act (σ × Workspace) Value := fun _ => throw .noDiagnosticSupport
  debugInfo : Value → Act (σ × Workspace) Value := fun _ => return .text ""
  shutdown : Act (σ × Workspace) Unit := return ()

namespace Completer

variable {σ : Type} (completer : Completer σ)

def getCore : Act (σ × Workspace) Core := do return completer.core (← get).1

def changeCore (change : Core → Core) : Act (σ × Workspace) Unit :=
  modify fun (state, workspace) => (completer.putCore (change (completer.core state)) state, workspace)

def invalidate : Act (σ × Workspace) Unit := completer.changeCore fun core => { core with cache := {} }

/-- The test of completers that wait for a trigger. -/
def appliesByTrigger (core : σ → Core) (supported : List String) (request : Value) : Act (σ × Workspace) Bool := do
  triggerStandsBefore (core (← get).1).settings.triggers supported request

/-- The completions kept for the place of a request. -/
def kept? (request : Value) : Act (σ × Workspace) (Option Value) := do
  let line ← request.field "line_num"
  let column ← request.field "start_column"
  return (← completer.getCore).cache.get? line column

/-- Whether to use the completer: it applies, and it did not come up empty at this place before. -/
def shouldUse (request : Value) : Act (σ × Workspace) Bool := do
  match completer.decides with
  | some decides => decides request
  | none =>
    if !(← completer.applies request) then
      completer.invalidate
      return false
    match ← completer.kept? request with
    | some .null | none => return true
    | some completions => return completions.isPresent

/-- The candidates of a request: the kept ones, or fresh ones that are kept from now on. -/
def candidates (request : Value) : Act (σ × Workspace) Value := do
  match ← completer.kept? request with
  | some completions => if completions.isPresent then return completions else fresh
  | none => fresh
where
  fresh : Act (σ × Workspace) Value := do
    let found ← completer.gather request
    let line ← request.field "line_num"
    let column ← request.field "start_column"
    completer.changeCore fun core => { core with cache := ⟨line, column, found⟩ }
    return found

/-- The completions of a request, filtered by its query. -/
def compute (request : Value) : Act (σ × Workspace) Value := do
  match completer.computes with
  | some computes => computes request
  | none =>
    if !(← isForced request) then
      if !(← completer.shouldUse request) then return .list []
    let found ← completer.candidates request
    let query ← request.field "query"
    if query.isPresent then Ranking.rankAnswer found query else return found

def help : String := helpText completer.subcommands

end Completer

end Typeahead

import Typeahead.Session.Surroundings
import Typeahead.Client.Keepalive
import Typeahead.Machine
import Typeahead.Retry
import Typeahead.Server.Launch
import Typeahead.Server.Watchdog

namespace Typeahead.Session

/-! Sessions with the machine, with clocks and retries, and with a server that is launched. -/

/-- How many arguments a function was called with, for each way it was called. -/
abbrev Counts := List (String × Int)

/-- The arguments of a call as they are told apart. -/
def callKey (arguments : List Value) (named : Value) : String :=
  let shown := match arguments with
    | [argument] => "(" ++ argument.literal ++ ",)"
    | arguments => "(" ++ Value.literalItems arguments ++ ")"
  shown ++ named.literal

def machineSteps : Steps Counts := fun name step => do
  match name with
  | "find_executable" =>
    let names ← textsField step "names"
    return textOrNull (Machine.firstExecutable? (← get).2 names)
  | "interpreter" => (Machine.interpreter : Act Workspace Value)
  | "temp_dir" =>
    let folder ← (Workspace.temporaryFolder : Act Workspace String)
    return Value.texts [folder, Machine.othersAccess (← get).2 folder]
  | "remove" =>
    let path ← textField step "path"
    Machine.removeFile path
    return .bool ((← get).2.has path)
  | "terminate" =>
    Machine.terminate (← step.field "pid")
    return .null
  | "free_port" =>
    let port ← step.field "port"
    Workspace.record (.bind "" (.int 0))
    Workspace.record .close
    return port
  | "platform" =>
    let workspace := (← get).2
    return .list [.bool workspace.onWindows, .bool workspace.onCygwin, .bool workspace.hasEditor]
  | "memoized" =>
    let arguments := itemsOf (fieldOr step "args" .null)
    let named := fieldOr step "kwargs" (.record [])
    let key := callKey arguments named
    match (← get).1.lookup key with
    | some count => return .int count
    | none =>
      Workspace.record (.call [])
      let count : Int := arguments.length + (fieldsOf named).length
      modify fun (counts, workspace) => (Table.put key count counts, workspace)
      return .int count
  | name => unknownStep name

def watchdogSteps : Steps Server.Watchdog := fun name step => do
  match name with
  | "main" =>
    Server.Watchdog.watch
    return .null
  | "request" =>
    Server.Watchdog.noteRequest
    return .list (itemsOf (fieldOr step "args" .null))
  | "last_request" => return (← get).1.lastRequest
  | "since_request" => Server.Watchdog.sinceRequest
  | name => unknownStep name

def watchdogOf (input : Value) : Except Fault Server.Watchdog := do
  let clock : Server.Clock :=
    { times := itemsOf (← input.field "times"), naps := (intOrZero (fieldOr input "wakeups" (.int 1))).toNat }
  match itemsOf (← input.field "args") with
  | [idle] => Server.Watchdog.make idle Server.Watchdog.defaultInterval clock
  | [idle, interval] => Server.Watchdog.make idle interval clock
  | _ => .error (.wrongKind "two or three arguments are needed")

/-- A fault of a given name. -/
def faultNamed (name text : String) : Fault :=
  match name with
  | "ValueError" => .refused text
  | "KeyError" => .missing (.text text)
  | "RuntimeError" => .failed text
  | "TypeError" => .wrongKind text
  | "AttributeError" => .noFeature text
  | "IndexError" => .outOfRange
  | "NotImplementedError" => .notImplemented text
  | _ => .scripted

/-- Takes the next of some outcomes, where a text is the name of a fault. -/
def nextOutcome (value : Value) : Act (List Value × Workspace) Value := do
  Workspace.record (.call [value])
  match (← get).1 with
  | [] => throw .outOfRange
  | outcome :: rest =>
    modify fun (_, workspace) => (rest, workspace)
    match outcome with
    | .text name => throw (faultNamed name "scripted")
    | outcome => return outcome

def catchesNames (names : List String) (fault : Fault) : Bool :=
  names.any fun name => name == "Exception" || name == fault.name

/-- Performs actions one after the other. -/
def performAll {σ : Type} : List (Act (σ × Workspace) Value) → σ × Workspace → List Answer × (σ × Workspace)
  | [], state => ([], state)
  | act :: rest, state =>
    let (answer, state) := perform act state
    let (answers, state) := performAll rest state
    (answer :: answers, state)

def retryAnswers (input : Value) (workspace : Workspace) : Except Fault (List Answer) := do
  let policy : Retry :=
    { tries := (← (← input.field "tries").asInt).toNat
      delay := fieldOr input "delay" (.int 1), growth := fieldOr input "backoff" (.int 2)
      catches := catchesNames ((itemsOf (fieldOr input "exceptions" (.list [.text "Exception"]))).map textOrEmpty)
      reports := flagOr input "hook" false }
  let outcomes := itemsOf (← input.field "outcomes")
  let calls := (itemsOf (← input.field "values")).map fun value =>
    do return ((← policy.run (nextOutcome value)).getD .null)
  return (performAll calls (outcomes, workspace)).1

def keepaliveAnswers (input : Value) (workspace : Workspace) : Except Fault (List Answer) := do
  let interval ← match itemsOf (fieldOr input "args" .null) with
    | [] => pure Client.Keepalive.defaultInterval
    | [interval] => pure interval
    | _ => .error (.wrongKind "one or two arguments are needed")
  let pings := (intOrZero (← input.field "pings")).toNat
  let start : Act (Unit × Workspace) Value := do
    Workspace.record .thread
    return .null
  let main : Act (Unit × Workspace) Value := do
    Client.Keepalive.pingFor interval pings
    return .null
  return (performAll [start, main] ((), workspace)).1

def launchAnswers (input : Value) (workspace : Workspace) : Except Fault (List Answer) := do
  let line ← textsField input "args"
  let launch : Act (Server.Launched × Workspace) Value := do
    Server.Launched.launch line (flagOr input "core_imported" false)
    return .null
  let option : Act (Server.Launched × Workspace) Value := do
    match (← get).1.state with
    | some state => return (state.options.lookup "min_num_of_chars_for_completion").getD .null
    | none => return .null
  let (first, state) := performAll [launch, option] ({}, workspace)
  let signal (arguments : Server.Arguments) : Act (Server.Launched × Workspace) Value := do
    Server.Launched.handleSignal arguments
    return .null
  let check : Act (Server.Launched × Workspace) Value := do
    let workspace := (← get).2
    return .list ((itemsOf (fieldOr input "check" .null)).map fun path => .bool (workspace.has (textOrEmpty path)))
  let rest := (state.1.handled.map signal).toList ++ [check]
  return first ++ (performAll rest state).1

/-- Answers that may not come about at all. -/
def answersOf (answers : Except Fault (List Answer)) : Answer ⊕ List Answer :=
  match answers with
  | .ok answers => .inr answers
  | .error fault => .inl ⟨.error fault, []⟩

end Typeahead.Session

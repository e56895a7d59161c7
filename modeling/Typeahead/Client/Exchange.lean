import Typeahead.Client.Address
import Typeahead.Retry

namespace Typeahead.Client

/-! Messages to the completion server. As long as the server has not answered that it is healthy, a message
is sent with retries; after that it goes through the pool that sends messages. -/

/-- What came of a message. -/
inductive Exchange where
  | answered (reply : Reply)
  | failed (fault : Fault)
  /-- It lies in the pool, and nobody takes it up. -/
  | pending

namespace Exchange

def isDone : Exchange → Bool
  | pending => false
  | _ => true

end Exchange

inductive Method where
  | get
  | post
  deriving DecidableEq, Repr

def Method.name : Method → String
  | get => "GET"
  | post => "POST"

def addressOf (handler : String) : Act Workspace String := do
  Address.resolve (← get).serverAddress handler

/-- Takes the next reply for an address; the last one stays. -/
def takeReply (address : String) : Act Workspace Reply := do
  let workspace ← get
  let name := Address.lastPart address
  match workspace.wire.queues.lookup name with
  | some (first :: second :: rest) =>
    let queues := Table.put name (second :: rest) workspace.wire.queues
    set { workspace with wire := { workspace.wire with queues } }
    return first
  | some [last] => return last
  | _ => return {}

def receive (address : String) : Act Workspace Reply := do
  let reply ← takeReply address
  match reply.failure with
  | some text => throw (.network text)
  | none => return reply

/-- Sends a message and waits for the reply. -/
def sendNow (method : Method) (handler : String) (body : Value) : Act Workspace Reply := do
  let address ← addressOf handler
  Workspace.record (.message .direct method.name address body .null)
  receive address

/-- A status from 400 on is a failure. -/
def checkStatus (reply : Reply) : Except Fault Unit :=
  if 400 ≤ reply.status then .error (.network ("status " ++ toString reply.status)) else .ok ()

/-- Whether the server is healthy, which is asked until the answer is yes. -/
def isHealthy : Act Workspace Bool := do
  if (← get).serverIsHealthy.isPresent then return true
  tryCatch ask fun _ => return false
where
  ask : Act Workspace Bool := do
    let reply ← sendNow .get "healthy" .null
    checkStatus reply
    modify fun workspace => { workspace with serverIsHealthy := reply.body }
    return reply.body.isPresent

def settle (act : Act Workspace Reply) : Act Workspace Exchange :=
  tryCatch (do return .answered (← act)) fun fault => return .failed fault

def patience : Retry := { tries := 5, delay := .float 0.5, growth := .float 1.5 }

/-- Sends a message with retries. -/
def sendPatiently (method : Method) (handler : String) (body : Value) : Act Workspace Exchange :=
  settle do
    match ← Act.alone (patience.run (sendNow method handler body : Act (Unit × Workspace) Reply)) with
    | some reply => return reply
    | none => return {}

/-- Hands a message to the pool. -/
def enqueue (method : Method) (handler : String) (body timeout : Value) : Act Workspace Exchange := do
  let address ← addressOf handler
  if (← get).wire.isPending then
    Workspace.record (.message .pending method.name address body timeout)
    return .pending
  Workspace.record (.message .queued method.name address body timeout)
  settle (receive address)

def send (method : Method) (handler : String) (body timeout : Value) : Act Workspace Exchange := do
  if ← isHealthy then enqueue method handler body timeout else sendPatiently method handler body

/-- What the server reports when it could not do what it was asked for. -/
def reported (report : Value) : Except Fault Fault := do
  let cause ← report.field "exception"
  let kind ← cause.field "TYPE"
  if kind.same (.text "UnknownExtraConf") then return .unknownConf (← cause.field "extra_conf_file").display
  return .server (kind.display ++ ": " ++ (← report.field "message").display)

/-- The value in the reply to a message. -/
def valueOf : Exchange → Except Fault Value
  | .pending => .error .timedOut
  | .failed fault => .error fault
  | .answered reply => do
    if reply.status == 500 then .error (← reported reply.body)
    checkStatus reply
    return if reply.isEmpty then .null else reply.body

def timeout : Value := .int 30

/-- Asks the server and waits for the answer. -/
def getData (handler : String) : Act Workspace Value := do valueOf (← send .get handler .null timeout)

/-- Tells the server something and waits for the answer. -/
def postData (data : Value) (handler : String) : Act Workspace Value := do
  valueOf (← send .post handler data timeout)

end Typeahead.Client

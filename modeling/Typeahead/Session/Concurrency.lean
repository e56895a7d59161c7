import Typeahead.Session.Machine
import Typeahead.Future
import Typeahead.Pool

namespace Typeahead.Session

/-! Sessions with futures and with pools of workers. -/

/-- Futures, and the names of those who wait for them. -/
structure FutureParts where
  futures : Futures := {}
  waiters : List (String × Nat) := []

namespace FutureParts

def onFutures {α : Type} (act : Futures.Doing α) : Act (FutureParts × Workspace) α :=
  Act.on (fun (parts, workspace) => (parts.futures, workspace))
    (fun (futures, workspace) (parts, _) => ({ parts with futures }, workspace)) act

end FutureParts

def statusValue (future : Future) : Value :=
  .list [.text future.status.name, .bool future.status.isDone, .bool (future.status == .running),
    .bool future.status.isCancelled]

/-- Steps on the futures alone. -/
def futureStep (name : String) (step : Value) : Futures.Doing Value := do
  match name with
  | "new" =>
    Futures.put (← textField step "f") {}
    return .null
  | "run" => return .bool (← Futures.start (← textField step "f"))
  | "cancel" => return .bool (← Futures.cancel (← textField step "f"))
  | "set_result" =>
    let future ← textField step "f"
    Futures.settle future (.ok (← step.field "value"))
    return .null
  | "set_exception" =>
    let future ← textField step "f"
    Futures.settle future (.error (faultNamed (← textField step "kind") "scripted"))
    return .null
  | "result" =>
    let (result, fault) ← Futures.outcome (← textField step "f")
    match fault with
    | some fault => throw fault
    | none => return result
  | "exception" =>
    let (_, fault) ← Futures.outcome (← textField step "f")
    return textOrNull (fault.map Fault.name)
  | "status" => return statusValue (← Futures.get (← textField step "f"))
  | "callback" =>
    let future ← textField step "f"
    Futures.addCallback future { name := ← textField step "name", fails := flagOr step "raises" false }
    return .null
  | "wait" =>
    let (done, others) ← Futures.wait (← textsField step "fs") (← step.field "when")
    return .record [("done", Value.texts (Text.sorted done)), ("not_done", Value.texts (Text.sorted others))]
  | "as_completed" =>
    let (done, unfinished) ← Futures.completed (← textsField step "fs")
    return .record ([("completed", Value.texts (Text.sorted done))] ++
      (unfinished.map fun text => ("timeout", Value.text text)).toList)
  | name => unknownStep name

def futureSteps : Steps FutureParts := fun name step => do
  match name with
  | "install_waiter" =>
    let waiter ← textField step "w"
    let names ← textsField step "fs"
    let rule ← step.field "when"
    let index ← FutureParts.onFutures (Futures.addWaiter names rule)
    modify fun (parts, workspace) => ({ parts with waiters := Table.put waiter index parts.waiters }, workspace)
    return .null
  | "waiter" =>
    let name ← textField step "w"
    let parts := (← get).1
    match (parts.waiters.lookup name).bind (parts.futures.waiters[·]?) with
    | some waiter =>
      return .record [("set", .bool waiter.isReleased), ("finished", Value.texts waiter.arrived)]
    | none => throw (.missing (.text name))
  | name => FutureParts.onFutures (futureStep name step)

/-- A call of one of a few functions by its name, or a fault of that name. -/
structure Task where
  call : String
  arguments : List Value

namespace Task

def run (task : Task) : Except Fault Value :=
  match task.call with
  | "sum" => task.arguments.foldlM Value.plus (.int 0)
  | "join" => do return .text (String.join (← task.arguments.mapM Value.asText))
  | "len" => .ok (.int task.arguments.length)
  | name => .error (faultNamed name "scripted")

end Task

/-- A pool, and the outcomes of what was submitted, by name. -/
structure PoolParts where
  pool : Pool Task
  outcomes : List (String × Except Fault Value) := []

namespace PoolParts

abbrev Doing := Act (PoolParts × Workspace)

/-- Submits a task and lets the workers do it. -/
def submit (task : Task) : Doing (Except Fault Value) := do
  let pool ← (← get).1.pool.submit task
  modify fun (parts, workspace) => ({ parts with pool := Pool.serve 0 (pool.queue.length + 1) pool }, workspace)
  return task.run

def outcome (name : String) : Doing (Except Fault Value) := do
  match (← get).1.outcomes.lookup name with
  | some outcome => return outcome
  | none => throw (.missing (.text name))

end PoolParts

/-- Tasks with one argument of each list, as many as the shortest list allows. -/
def tasksOf (calls : List String) (lists : List (List Value)) : List Task :=
  let count := lists.foldl (fun count list => min count list.length) calls.length
  (calls.take count).zipIdx.map fun (call, index) =>
    { call, arguments := lists.map fun list => list[index]?.getD .null }

/-- Something that lies in a worker's queue: a task that may have been cancelled, a signal to stop, or
something that no worker can do. -/
inductive QueueEntry where
  | task (task : Task) (isCancelled : Bool)
  | stop
  | foreign

def queueEntryOf (value : Value) : QueueEntry :=
  match value with
  | .null => .stop
  | .text _ => .foreign
  | value => .task ⟨textOrEmpty (fieldOr value "call" .null), itemsOf (fieldOr value "args" .null)⟩
      (flagOr value "cancel" false)

def statusAfter (isTaken isCancelled : Bool) : Future.Status :=
  match isTaken, isCancelled with
  | true, true => .cancelledAndNotified
  | true, false => .finished
  | false, true => .cancelled
  | false, false => .pending

/-- One worker with a queue: the tasks it takes until it leaves or meets something it cannot do, and what is
left in the queue. -/
def workerStep (entries : List QueueEntry) (isShutDown : Bool) : Value :=
  let isForeign (entry : QueueEntry) : Bool := entry matches .foreign
  let before := entries.takeWhile (!isForeign ·)
  let behind := entries.dropWhile (!isForeign ·)
  let queue : List (Option Nat) := before.zipIdx.map fun (entry, index) => match entry with
    | .task _ _ => some index
    | _ => none
  let pool : Pool Nat := { limit := 1, queue, workers := [.idle], isShutDown }
  let after := Pool.serve 0 (queue.length + 1) pool
  let left := after.queue.length + if after.workers == [.gone] then behind.length else behind.length - 1
  let statuses := entries.zipIdx.filterMap fun (entry, index) => match entry with
    | .task _ isCancelled => some (statusAfter (after.finished.contains index) isCancelled).name
    | _ => none
  .record [("states", Value.texts statuses), ("left", .int left)]

def poolSteps : Steps PoolParts := fun name step => do
  match name with
  | "submit" =>
    let future ← textField step "f"
    let outcome ← PoolParts.submit ⟨← textField step "call", itemsOf (fieldOr step "args" .null)⟩
    modify fun (parts, workspace) => ({ parts with outcomes := Table.put future outcome parts.outcomes }, workspace)
    return .null
  | "result" => return ← (← PoolParts.outcome (← textField step "f"))
  | "exception" =>
    match ← PoolParts.outcome (← textField step "f") with
    | .ok _ => return .text "NoneType"
    | .error fault => return .text fault.name
  | "map" =>
    let lists := (itemsOf (← step.field "args")).map itemsOf
    let outcomes ← (tasksOf (← textsField step "calls") lists).mapM PoolParts.submit
    return .list (← (outcomes.mapM id : Except Fault _))
  | "threads" => return .int (← get).1.pool.workers.length
  | "shutdown" =>
    modify fun (parts, workspace) => ({ parts with pool := parts.pool.shutdown }, workspace)
    return .null
  | "worker" =>
    let entries := (itemsOf (← step.field "items")).map queueEntryOf
    return workerStep entries (flagOr step "shutdown" false || flagOr step "gone" false)
  | name => unknownStep name

def poolOf (input : Value) : Except Fault PoolParts := do
  let _ ← input.field "kind"
  return { pool := { limit := (← (← input.field "workers").asInt).toNat } }

end Typeahead.Session

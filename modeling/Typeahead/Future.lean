import Typeahead.Table
import Typeahead.Workspace

namespace Typeahead

/-! Results that are still to come. Others may wait for several of them at once, or leave a callback. -/

namespace Future

inductive Status where
  | pending
  | running
  | cancelled
  /-- Cancelled, and those who wait have been told. -/
  | cancelledAndNotified
  | finished
  deriving DecidableEq, Repr

def Status.name : Status → String
  | pending => "PENDING"
  | running => "RUNNING"
  | cancelled => "CANCELLED"
  | cancelledAndNotified => "CANCELLED_AND_NOTIFIED"
  | finished => "FINISHED"

def Status.isCancelled (status : Status) : Bool := status matches .cancelled | .cancelledAndNotified

def Status.isDone (status : Status) : Bool := status.isCancelled || status == .finished

/-- Whether those who wait have been told. -/
def Status.isTold (status : Status) : Bool := status matches .cancelledAndNotified | .finished

structure Callback where
  name : String
  /-- A callback may fail; that is noted and goes no further. -/
  fails : Bool := false

/-- When somebody who waits for several results goes on. -/
inductive Rule where
  /-- As soon as one is there. -/
  | first
  /-- When this many more are there, or earlier with a failure if it `stopsOnFault`. -/
  | all (missing : Int) (stopsOnFault : Bool)

end Future

structure Future where
  status : Future.Status := .pending
  result : Value := .null
  fault : Option Fault := none
  /-- The numbers of those who wait for it. -/
  waiters : List Nat := []
  callbacks : List Future.Callback := []

/-- Somebody who waits for several results. -/
structure Waiter where
  rule : Future.Rule
  /-- Whether to go on. -/
  isReleased : Bool := false
  /-- The results that have come, in order. -/
  arrived : List String := []

/-- What becomes of a future. -/
inductive Arrival where
  | result
  | fault
  | cancellation

namespace Waiter

/-- One result less is missing. -/
def countDown (waiter : Waiter) (missing : Int) (stopsOnFault : Bool) : Waiter :=
  { waiter with
    rule := .all (missing - 1) stopsOnFault
    isReleased := waiter.isReleased || missing - 1 == 0 }

/-- Takes note of a future that is done. -/
def note (name : String) (arrival : Arrival) (waiter : Waiter) : Waiter :=
  let waiter := { waiter with arrived := waiter.arrived ++ [name] }
  match waiter.rule, arrival with
  | .first, _ => { waiter with isReleased := true }
  | .all _ true, .fault => { waiter with isReleased := true }
  | .all missing stopsOnFault, _ => waiter.countDown missing stopsOnFault

end Waiter

/-- Futures by name, with those who wait for them. -/
structure Futures where
  futures : List (String × Future) := []
  waiters : List Waiter := []

namespace Futures

abbrev Doing := Act (Futures × Workspace)

def get (name : String) : Doing Future := do
  match (← MonadState.get).1.futures.lookup name with
  | some future => return future
  | none => throw (.missing (.text name))

def put (name : String) (future : Future) : Doing Unit :=
  modify fun (state, workspace) => ({ state with futures := Table.put name future state.futures }, workspace)

/-- Tells those who wait for a future. -/
def tell (name : String) (arrival : Arrival) (waiters : List Nat) : Doing Unit :=
  modify fun (state, workspace) =>
    ({ state with waiters := waiters.foldl (fun all index => all.modify index (Waiter.note name arrival)) state.waiters },
      workspace)

/-- Runs the callbacks in the order in which they were left; failures of theirs are not passed on. -/
def runCallbacks (name : String) (callbacks : List Future.Callback) : Doing Unit :=
  callbacks.forM fun callback => Workspace.record (.callback callback.name name)

/-- Cancels a future that has not been started. -/
def cancel (name : String) : Doing Bool := do
  let future ← get name
  match future.status with
  | .running | .finished => return false
  | .cancelled | .cancelledAndNotified => return true
  | .pending =>
    put name { future with status := .cancelled }
    runCallbacks name future.callbacks
    return true

/-- Starts a future, unless it has been cancelled, which those who wait are told now. -/
def start (name : String) : Doing Bool := do
  let future ← get name
  match future.status with
  | .cancelled =>
    put name { future with status := .cancelledAndNotified }
    tell name .cancellation future.waiters
    return false
  | .pending =>
    put name { future with status := .running }
    return true
  | _ => throw (.noFeature "this future cannot be started any more")

/-- Sets what a future has come to, whatever it was before. -/
def settle (name : String) (outcome : Except Fault Value) : Doing Unit := do
  let future ← get name
  let (future, arrival) : Future × Arrival := match outcome with
    | .ok result => ({ future with result }, .result)
    | .error fault => ({ future with fault := some fault }, .fault)
  put name { future with status := .finished }
  tell name arrival future.waiters
  runCallbacks name future.callbacks

/-- What a future has come to, for somebody who does not wait. -/
def outcome (name : String) : Doing (Value × Option Fault) := do
  let future ← get name
  if future.status.isCancelled then throw .cancelled
  if future.status != .finished then throw .timedOut
  return (future.result, future.fault)

/-- Leaves a callback, or runs it at once where the future is done. -/
def addCallback (name : String) (callback : Future.Callback) : Doing Unit := do
  let future ← get name
  if !future.status.isDone then
    put name { future with callbacks := future.callbacks ++ [callback] }
  else
    Workspace.record (.callback callback.name name)
    if callback.fails then throw (.refused "callback")

/-- The rule of a name, for waiting on some futures. -/
def ruleOf (name : Value) (futures : List Future) : Except Fault Future.Rule :=
  let missing : Int := (futures.filter fun future => !future.status.isTold).length
  match name with
  | .text "_AS_COMPLETED" | .text "FIRST_COMPLETED" => .ok .first
  | .text "FIRST_EXCEPTION" => .ok (.all missing true)
  | .text "ALL_COMPLETED" => .ok (.all missing false)
  | name => .error (.refused ("Invalid return condition: " ++ name.literal))

/-- Lets somebody wait for futures, and answers the waiter's number. -/
def addWaiter (names : List String) (rule : Value) : Doing Nat := do
  let rule ← ruleOf rule (← names.mapM get)
  let index := (← MonadState.get).1.waiters.length
  modify fun (state, workspace) => ({ state with waiters := state.waiters ++ [{ rule }] }, workspace)
  names.forM fun name => do
    let future ← get name
    put name { future with waiters := future.waiters ++ [index] }
  return index

/-- Takes a waiter away from futures, once for each time it is there. -/
def removeWaiter (names : List String) (index : Nat) : Doing Unit :=
  names.forM fun name => do
    let future ← get name
    put name { future with waiters := future.waiters.erase index }

/-- Which of the futures are done and told, and which are not. -/
def parted (names : List String) : Doing (List String × List String) := do
  let futures ← names.mapM fun name => do return (name, ← get name)
  let (told, others) := futures.partition fun (_, future) => future.status.isTold
  return ((told.map (·.1)).eraseDups, (others.map (·.1)).eraseDups)

/-- Whether there is a failure among futures that are done. -/
def hasFault (names : List String) : Doing Bool := do
  let futures ← names.mapM get
  return futures.any fun future => !future.status.isCancelled && future.fault.isSome

/-- Waits for futures for no time at all: which are done, and which are not. -/
def wait (names : List String) (rule : Value) : Doing (List String × List String) := do
  let (done, others) ← parted names
  if rule.same (.text "FIRST_COMPLETED") && !done.isEmpty then return (done, others)
  if rule.same (.text "FIRST_EXCEPTION") then
    if ← hasFault done then return (done, others)
  if done.length == names.length then return (done, others)
  let waiter ← addWaiter names rule
  removeWaiter names waiter
  return (done, others)

/-- The futures that are done, and how many are left of those given, for somebody who does not wait. -/
def completed (names : List String) : Doing (List String × Option String) := do
  let (done, others) ← parted names
  let waiter ← addWaiter names (.text "_AS_COMPLETED")
  removeWaiter names waiter
  if others.isEmpty then return (done, none)
  return (done, some (toString others.length ++ " (of " ++ toString names.length ++ ") futures unfinished"))

end Futures

end Typeahead

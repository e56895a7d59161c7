import Typeahead.Workspace

namespace Typeahead.Server

/-! A watch over the server: it wakes up from time to time and looks how long there has been no request. -/

/-- The times that are read off a clock, of which the last one stays, and how many naps end. -/
structure Clock where
  times : List Value
  naps : Nat

structure Watchdog where
  idle : Value
  interval : Value
  lastWakeup : Value
  lastRequest : Value
  clock : Clock

namespace Watchdog

abbrev Doing := Act (Watchdog × Workspace)

/-- The first time of a clock, and the clock after it was read. -/
def readClock (clock : Clock) : Except Fault (Value × Clock) :=
  match clock.times with
  | [] => .error .outOfRange
  | [last] => .ok (last, clock)
  | first :: rest => .ok (first, { clock with times := rest })

def defaultInterval : Value := .int 600

def make (idle interval : Value) (clock : Clock) : Except Fault Watchdog := do
  let (lastWakeup, clock) ← readClock clock
  let (lastRequest, clock) ← readClock clock
  let _ ← (Value.int 0).less idle
  return { idle, interval, lastWakeup, lastRequest, clock }

def now : Doing Value := do
  let (time, clock) ← readClock (← get).1.clock
  modify fun (watchdog, workspace) => ({ watchdog with clock }, workspace)
  return time

/-- Takes note of a request. -/
def noteRequest : Doing Unit := do
  let lastRequest ← now
  modify fun (watchdog, workspace) => ({ watchdog with lastRequest }, workspace)

def sinceRequest : Doing Value := do (← now).minus (← get).1.lastRequest

/-- Looks for how long there has been no request. The time of the last look is not to be had, so a server
that is found idle is not ended. -/
def look : Doing Unit := do
  if ← (← get).1.idle.less (← sinceRequest) then
    let _ ← now
    throw ((← get).1.lastWakeup.wrongKind "" " object is not callable")
  let lastWakeup ← now
  modify fun (watchdog, workspace) => ({ watchdog with lastWakeup }, workspace)

/-- Sleeps and looks in turn, as long as naps end. -/
def watchFor : Nat → Doing Unit
  | 0 => do
    Workspace.record (.sleep (← get).1.interval)
    throw .clockStopped
  | naps + 1 => do
    Workspace.record (.sleep (← get).1.interval)
    modify fun (watchdog, workspace) => ({ watchdog with clock := { watchdog.clock with naps } }, workspace)
    look
    watchFor naps

def watch : Doing Unit := do watchFor (← get).1.clock.naps

end Watchdog

end Typeahead.Server

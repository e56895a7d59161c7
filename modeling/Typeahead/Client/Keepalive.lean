import Typeahead.Client.Exchange

namespace Typeahead.Client.Keepalive

/-! Requests that keep the server awake while the user does nothing. -/

def defaultInterval : Value := .int 600

/-- Asks the server whether it is healthy; it does not matter when that fails. -/
def ping : Act Workspace Unit := do
  let _ ← (getData "healthy").succeeds

/-- Sleeps and pings in turn, as long as naps end. -/
def pingFor (interval : Value) : Nat → Act Workspace Unit
  | 0 => do
    Workspace.record (.sleep interval)
    throw .clockStopped
  | naps + 1 => do
    Workspace.record (.sleep interval)
    ping
    pingFor interval naps

end Typeahead.Client.Keepalive

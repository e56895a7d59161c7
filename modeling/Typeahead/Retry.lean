import Typeahead.Workspace

namespace Typeahead

/-! Doing something again when it fails, after waits that grow. -/

structure Retry where
  tries : Nat
  delay : Value := .int 1
  /-- What a wait is multiplied with for the next one. -/
  growth : Value := .int 2
  /-- The failures that are worth another try. -/
  catches : Fault → Bool := fun _ => true
  /-- Whether failures are reported before the wait. -/
  reports : Bool := false

namespace Retry

variable {σ α : Type}

def sleep (seconds : Value) : Act Workspace Unit := Workspace.record (.sleep seconds)

/-- Tries as often as it is left to, waiting in between; the last failure stands. -/
def attempts (policy : Retry) (act : Act (σ × Workspace) α) : Nat → Value → Act (σ × Workspace) (Option α)
  | 0, _ => return none
  | remaining + 1, delay =>
    tryCatch (do return some (← act)) fun fault => do
      if !policy.catches fault || remaining == 0 then throw fault
      if policy.reports then Workspace.record (.hook remaining fault.name delay)
      sleep delay
      attempts policy act remaining (← delay.times policy.growth)

/-- Does something with retries. Without any try there is no result. -/
def run (policy : Retry) (act : Act (σ × Workspace) α) : Act (σ × Workspace) (Option α) :=
  policy.attempts act policy.tries policy.delay

end Retry

end Typeahead

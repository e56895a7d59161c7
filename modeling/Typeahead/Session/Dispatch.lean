import Typeahead.Session.Client
import Typeahead.Session.Completers
import Typeahead.Session.Concurrency
import Typeahead.Session.Engines
import Typeahead.Session.Stores
import Typeahead.Session.Server

namespace Typeahead.Session

/-! All sessions by their kinds. -/

/-- What a session is held with. -/
inductive Kind where
  | completer (kind : CompleterKind)
  /-- The identifiers of files. -/
  | identifiers
  /-- The last candidates of a completer. -/
  | candidates
  | flags
  /-- The modules with the user's settings. -/
  | settings
  /-- The translation units of the compiler front-end. -/
  | units
  /-- The database of compile commands. -/
  | compilations
  | server
  | client
  | watchdog
  | keepalive
  | retries
  /-- The start of the server. -/
  | launch
  /-- Processes, ports and folders. -/
  | machine
  | futures
  | pool
  deriving DecidableEq, Repr

/-- The answers of a session: one if it cannot be started, or else one for each step. -/
def respond (calls : ClientCalls) (kind : Kind) (input : Value) (workspace : Workspace) : Answer ⊕ List Answer :=
  match kind with
  | .completer kind => completerAnswers kind input workspace
  | .identifiers => start (.ok {}) databaseSteps input workspace
  | .candidates => start (.ok {}) cacheSteps input workspace
  | .flags => start (.ok {}) flagsSteps input workspace
  | .settings => start (.ok ()) confSteps input workspace
  | .units => start (.ok {}) engineSteps input workspace
  | .compilations =>
    start (do return Frontend.Database.load (workspace.frontend.getD {}) (← nativeText input "directory"))
      compilationSteps input workspace
  | .server => start (serverOf workspace) serverSteps input workspace
  | .client => start (.ok {}) (clientSteps calls) input workspace
  | .watchdog => start (watchdogOf input) watchdogSteps input workspace
  | .keepalive => answersOf (keepaliveAnswers input workspace)
  | .retries => answersOf (retryAnswers input workspace)
  | .launch => answersOf (launchAnswers input workspace)
  | .machine => start (.ok []) machineSteps input workspace
  | .futures => start (.ok {}) futureSteps input workspace
  | .pool => start (poolOf input) poolSteps input workspace

end Typeahead.Session

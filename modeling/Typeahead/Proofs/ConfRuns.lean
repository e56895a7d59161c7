import Typeahead.Conf.Store
import Typeahead.Proofs.Acts

namespace Typeahead.Conf

/-! Which configuration files are run. The calls of the store are written once more with the way to run a file left
open; with any way that does to the workspace what `run` does they are the calls of the store, and with one that keeps
a list besides they tell which files they run. -/

/-- Remembers which file belongs to a source file. -/
def assign (source : String) (found : Option String) : Act Workspace Unit :=
  modify fun workspace =>
    { workspace with confs := { workspace.confs with sources := (source, found) :: workspace.confs.sources } }

section Open

variable {σ : Type} (execute : String → Act (σ × Workspace) ConfModule)

def loadBy (path : String) (force : Bool) : Act (σ × Workspace) (Option ConfModule) := do
  if path.isEmpty then return none
  if force then return some (← execute path)
  let workspace ← (get : Act Workspace Workspace)
  match workspace.confs.modules.lookup path with
  | some known => return known
  | none =>
    if ← mayRun path then return some (← execute path)
    else
      disable path
      return none

def firstLoadedBy : List String → Act (σ × Workspace) (Option String)
  | [] => return none
  | path :: rest => do
    if (← loadBy execute path false).isSome then return some path else firstLoadedBy rest

def pathForBy (source : String) : Act (σ × Workspace) (Option String) := do
  let workspace ← (get : Act Workspace Workspace)
  match workspace.confs.sources.lookup source with
  | some known => return known
  | none =>
    let workspace ← (get : Act Workspace Workspace)
    let found ← match ← firstLoadedBy execute (around workspace source) with
      | some path => pure (some path)
      | none => do firstLoadedBy execute (← fallback)
    assign source found
    return found

def moduleForBy (source : String) : Act (σ × Workspace) (Option ConfModule) := do
  match ← pathForBy execute source with
  | some path => loadBy execute path false
  | none => return none

end Open

section Erasure

variable {σ : Type} {execute : String → Act (σ × Workspace) ConfModule}
  (runs : ∀ path, Act.Erases (execute path) (run path))
include runs

theorem erases_loadBy (path : String) (force : Bool) : Act.Erases (loadBy execute path force) (load path force) := by
  unfold loadBy load
  split
  · exact Act.erases_pure none
  · split
    · exact Act.erases_bind (runs path) fun module => Act.erases_pure _
    · refine Act.erases_bind (Act.erases_lift get) fun workspace => ?_
      cases workspace.confs.modules.lookup path with
      | some known => exact Act.erases_pure known
      | none =>
          refine Act.erases_bind (Act.erases_lift (mayRun path)) fun allowed => ?_
          cases allowed with
          | true => exact Act.erases_bind (runs path) fun module => Act.erases_pure _
          | false => exact Act.erases_bind (Act.erases_lift (disable path)) fun _ => Act.erases_pure none

theorem erases_firstLoadedBy (paths : List String) :
    Act.Erases (firstLoadedBy execute paths) (firstLoaded paths) := by
  induction paths with
  | nil => exact Act.erases_pure none
  | cons path rest ih =>
      refine Act.erases_bind (erases_loadBy runs path false) fun loaded => ?_
      cases loaded with
      | some module => exact Act.erases_pure (some path)
      | none => exact ih

theorem erases_pathForBy (source : String) : Act.Erases (pathForBy execute source) (pathFor source) := by
  unfold pathForBy pathFor
  refine Act.erases_bind (Act.erases_lift get) fun workspace => ?_
  cases workspace.confs.sources.lookup source with
  | some known => exact Act.erases_pure known
  | none =>
      refine Act.erases_bind (Act.erases_lift get) fun workspace => ?_
      refine Act.erases_bind (erases_firstLoadedBy runs _) fun nearest => ?_
      have assigning (found : Option String) : Act.Erases
          (do assign source found; return found : Act (σ × Workspace) (Option String))
          (do assign source found; return found) :=
        Act.erases_bind (Act.erases_lift (assign source found)) fun _ => Act.erases_pure found
      cases nearest with
      | some path => exact assigning (some path)
      | none =>
          refine Act.erases_bind (Act.erases_lift fallback) fun last => ?_
          exact Act.erases_bind (erases_firstLoadedBy runs last) assigning

theorem erases_moduleForBy (source : String) : Act.Erases (moduleForBy execute source) (moduleFor source) := by
  refine Act.erases_bind (erases_pathForBy runs source) fun found => ?_
  cases found with
  | some path => exact erases_loadBy runs path false
  | none => exact Act.erases_pure none

end Erasure

/-- What is asked of the store of configuration files. -/
inductive Call where
  | load (path : String) (force : Bool)
  | disable (path : String)
  | pathFor (source : String)
  | moduleFor (source : String)
  deriving DecidableEq

namespace Call

/-- Does what a call asks for; the result is the configuration that the caller gets, if any. -/
def perform : Call → Act Workspace (Option ConfModule)
  | .load path force => Conf.load path force
  | .disable path => do Conf.disable path; return none
  | .pathFor source => do let _ ← Conf.pathFor source; return none
  | .moduleFor source => Conf.moduleFor source

def performBy {σ : Type} (execute : String → Act (σ × Workspace) ConfModule) : Call → Act (σ × Workspace) (Option ConfModule)
  | .load path force => loadBy execute path force
  | .disable path => do Conf.disable path; return none
  | .pathFor source => do let _ ← pathForBy execute source; return none
  | .moduleFor source => moduleForBy execute source

theorem erases_performBy {σ : Type} {execute : String → Act (σ × Workspace) ConfModule}
    (runs : ∀ path, Act.Erases (execute path) (run path)) (call : Call) :
    Act.Erases (call.performBy execute) call.perform := by
  cases call with
  | load path force => exact erases_loadBy runs path force
  | disable path => exact Act.erases_bind (Act.erases_lift (Conf.disable path)) fun _ => Act.erases_pure none
  | pathFor source => exact Act.erases_bind (erases_pathForBy runs source) fun _ => Act.erases_pure none
  | moduleFor source => exact erases_moduleForBy runs source

end Call

/-- Runs a file, and notes it on a list. -/
def executing (path : String) : Act (List String × Workspace) ConfModule := do
  modify fun state => (state.1 ++ [path], state.2)
  run path

theorem erases_executing (path : String) : Act.Erases (executing path) (run path) := fun _ _ => rfl

/-- A call, and the files that there are when it is made. -/
structure Visit where
  call : Call
  files : Files

namespace Visit

variable (visit : Visit) (workspace : Workspace)

/-- The workspace that a visit finds. -/
def scene : Workspace := { workspace with files := visit.files }

def answer : Except Fault (Option ConfModule) := (visit.call.perform.run.run (visit.scene workspace)).1

def after : Workspace := (visit.call.perform.run.run (visit.scene workspace)).2

/-- The configuration files that a visit runs, in order. -/
def executed : List String := ((visit.call.performBy executing).run.run ([], visit.scene workspace)).2.1

/-- The visit in which files are noted is the visit itself. -/
theorem run_performBy_executing :
    (visit.call.performBy executing).run.run ([], visit.scene workspace) =
      (visit.answer workspace, (visit.executed workspace, visit.after workspace)) := by
  have same := Call.erases_performBy erases_executing visit.call [] (visit.scene workspace)
  rw [Prod.ext_iff] at same
  obtain ⟨sameResult, sameWorkspace⟩ := same
  exact Prod.ext sameResult (Prod.ext rfl sameWorkspace)

end Visit

/-- The workspace after some visits, whether or not they fail. -/
def afterVisits (visits : List Visit) (workspace : Workspace) : Workspace :=
  visits.foldl (fun workspace visit => visit.after workspace) workspace

theorem afterVisits_concat (visits : List Visit) (visit : Visit) (workspace : Workspace) :
    afterVisits (visits ++ [visit]) workspace = visit.after (afterVisits visits workspace) := by
  simp [afterVisits]

end Typeahead.Conf

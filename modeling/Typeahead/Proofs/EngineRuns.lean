import Mathlib.Data.List.Induction
import Typeahead.Proofs.EngineOutcomes
import Typeahead.Proofs.Since

namespace Typeahead.Frontend.Engine

/-! Runs of the engine for the C family, with every pattern of successes and failures of the front end. A file
counts as being updated between operations exactly after a lookup that raised on it, until its unit is deleted or
replaced. -/

/-- What can be asked of the engine. -/
inductive Operation where
  | update (path : String) (flags : List String) (unsaved : Unsaved)
  | completions (path : String) (line column : Int) (flags : List String) (unsaved : Unsaved)
  | declaration (path : String) (line column : Int) (flags : List String) (unsaved : Unsaved) (parseAgain : Bool)
  | definition (path : String) (line column : Int) (flags : List String) (unsaved : Unsaved) (parseAgain : Bool)
  | delete (path : String)

namespace Operation

def perform : Operation → Doing Unit
  | .update path flags unsaved => do let _ ← Engine.update path flags unsaved
  | .completions path line column flags unsaved => do let _ ← Engine.completions path line column flags unsaved
  | .declaration path line column flags unsaved parseAgain => do
    let _ ← Engine.declaration path line column flags unsaved parseAgain
  | .definition path line column flags unsaved parseAgain => do
    let _ ← Engine.definition path line column flags unsaved parseAgain
  | .delete path => Engine.delete path

def file : Operation → String
  | .update path _ _ | .completions path _ _ _ _ | .declaration path _ _ _ _ _ | .definition path _ _ _ _ _
  | .delete path => path

/-- The key of the flags that an operation comes with. -/
def key? : Operation → Option UInt64
  | .update _ flags _ | .completions _ _ _ flags _ | .declaration _ _ _ flags _ _ | .definition _ _ _ flags _ _ =>
    some (flagsHash flags)
  | .delete _ => none

/-- Whether an operation is a lookup that parses again first. -/
def looksAgain : Operation → Bool
  | .declaration _ _ _ _ _ parseAgain | .definition _ _ _ _ _ parseAgain => parseAgain
  | _ => false

end Operation

/-- An operation, and how the front end answers while it lasts. -/
structure Step where
  operation : Operation
  frontend : Frontend

namespace Step

def perform (step : Step) (state : Engine × Workspace) : Except Fault Unit × Engine × Workspace :=
  step.operation.perform.run.run (state.1, { state.2 with frontend := some step.frontend })

def Raises (step : Step) (state : Engine × Workspace) : Prop := ∃ fault, (step.perform state).1 = .error fault

end Step

theorem perform_outcome (step : Step) {state : Engine × Workspace} {key : UInt64} (keyed : state.1.Keyed)
    (isKey : step.operation.key? = some key) :
    Outcome state.1 step.frontend step.operation.file key step.operation.looksAgain (step.Raises state)
      (step.perform state).2.1 := by
  obtain ⟨operation, frontend⟩ := step
  obtain ⟨units, workspace⟩ := state
  let asked : Workspace := { workspace with frontend := some frontend }
  have here : asked.frontend = some frontend := rfl
  cases operation with
  | update path flags unsaved =>
      cases isKey
      obtain ⟨diagnostics, after, running, outcome⟩ := run_update keyed here path flags unsaved
      exact Outcome.of_effect running (by simpa [Operation.file, Operation.looksAgain] using outcome)
  | completions path line column flags unsaved =>
      cases isKey
      obtain ⟨found, after, running, outcome⟩ := run_completions keyed here path line column flags unsaved
      exact Outcome.of_effect running (by simpa [Operation.file, Operation.looksAgain] using outcome)
  | declaration path line column flags unsaved parseAgain =>
      cases isKey
      obtain ⟨result, after, running, outcome⟩ :=
        run_follow keyed here (·.referenced) path line column flags unsaved parseAgain
      exact Outcome.of_effect running outcome
  | definition path line column flags unsaved parseAgain =>
      cases isKey
      obtain ⟨result, after, running, outcome⟩ :=
        run_follow keyed here (·.definition) path line column flags unsaved parseAgain
      exact Outcome.of_effect running outcome
  | delete path => cases isKey

/-- Only a deletion comes without flags. -/
theorem perform_delete (step : Step) (state : Engine × Workspace) (noKey : step.operation.key? = none) :
    ¬ step.Raises state ∧ (step.perform state).2.1 = state.1.remove step.operation.file := by
  obtain ⟨operation, frontend⟩ := step
  cases operation with
  | delete path => exact ⟨nofun, rfl⟩
  | _ => cases noKey

theorem keyed_perform (step : Step) {state : Engine × Workspace} (keyed : state.1.Keyed) :
    (step.perform state).2.1.Keyed := by
  cases isKey : step.operation.key? with
  | some key => exact (perform_outcome step keyed isKey).keyed
  | none =>
      rw [(perform_delete step state isKey).2]
      exact keyed.remove _

/-- A file has a dead unit after a step if the step raised on it, or if it had one before and the step came with the
same flags, as far as it was on that file at all. -/
theorem deadKey?_perform_iff (step : Step) {state : Engine × Workspace} (keyed : state.1.Keyed) (path : String)
    (key : UInt64) :
    (step.perform state).2.1.deadKey? path = some key ↔
      (step.operation.file = path ∧ step.operation.key? = some key ∧ step.Raises state) ∨
        (state.1.deadKey? path = some key ∧ (step.operation.file = path → step.operation.key? = some key)) := by
  cases isKey : step.operation.key? with
  | some known =>
      have outcome := perform_outcome step keyed isKey
      by_cases same : step.operation.file = path
      · subst same
        rw [outcome.dead_iff key]
        grind
      · have untouched : (step.perform state).2.1.deadKey? path = state.1.deadKey? path := by
          rw [UnitStore.deadKey?, UnitStore.deadKey?, outcome.elsewhere path (Ne.symm same)]
        simp [untouched, same]
  | none =>
      rw [(perform_delete step state isKey).2]
      by_cases same : step.operation.file = path
      · subst same
        simp [UnitStore.deadKey?_of_none (UnitStore.stored?_remove_self state.1 step.operation.file)]
      · have untouched : (state.1.remove step.operation.file).deadKey? path = state.1.deadKey? path := by
          rw [UnitStore.deadKey?, UnitStore.deadKey?, UnitStore.stored?_remove_other _ (Ne.symm same)]
        simp [untouched, same]

/-- The state after steps, one after another, whether or not they raise. -/
def run (steps : List Step) (state : Engine × Workspace) : Engine × Workspace :=
  steps.foldl (fun state step => (step.perform state).2) state

theorem run_concat (steps : List Step) (step : Step) (state : Engine × Workspace) :
    run (steps ++ [step]) state = (step.perform (run steps state)).2 := by
  simp [run]

theorem keyed_run (steps : List Step) {state : Engine × Workspace} (keyed : state.1.Keyed) :
    (run steps state).1.Keyed := by
  induction steps using List.reverseRecOn with
  | nil => exact keyed
  | append_singleton steps step ih =>
      rw [run_concat]
      exact keyed_perform step ih

/-- A step of a run raised on a file, with flags of a key, and no step since was on that file with other flags or
deleted its unit. -/
def RaisedLast (steps : List Step) (state : Engine × Workspace) (path : String) (key : UInt64) : Prop :=
  Since (fun state step => (step.perform state).2)
    (fun step state => step.operation.file = path ∧ step.operation.key? = some key ∧ step.Raises state)
    (fun step _ => step.operation.file = path ∧ step.operation.key? ≠ some key) steps state

/-- After a run a file has a dead unit exactly if a step raised on it and nothing has replaced the unit since. -/
theorem deadKey?_run_iff (steps : List Step) (workspace : Workspace) (path : String) (key : UInt64) :
    (run steps ({}, workspace)).1.deadKey? path = some key ↔ RaisedLast steps ({}, workspace) path key := by
  induction steps using List.reverseRecOn with
  | nil => exact iff_of_false nofun (not_since_nil _)
  | append_singleton steps last ih =>
      rw [run_concat, deadKey?_perform_iff last (keyed_run steps UnitStore.keyed_empty), ih, RaisedLast, RaisedLast,
        since_concat_iff, not_and_not_right]
      rfl

/-- Between operations a file counts as being updated exactly if a lookup on it raised and its unit has not been
deleted or replaced since. An operation raises exactly if it is a lookup that parses again, there is a live unit, held
or newly made, and parsing that one again fails. -/
theorem isUpdating_iff_raised (workspace : Workspace) (steps : List Step) :
    (∀ path, ∃ answer, ((isUpdating path).run.run (run steps ({}, workspace))).1 = .ok answer ∧
      (answer = true ↔ ∃ key, RaisedLast steps ({}, workspace) path key)) ∧
    ∀ step : Step, step.Raises (run steps ({}, workspace)) ↔
      step.operation.looksAgain = true ∧ ∃ key, step.operation.key? = some key ∧
        ReparseFails (run steps ({}, workspace)).1 step.operation.file key step.frontend := by
  have keyed := keyed_run steps (show (({}, workspace) : Engine × Workspace).1.Keyed from UnitStore.keyed_empty)
  constructor
  · intro path
    refine ⟨_, rfl, ?_⟩
    rw [UnitStore.isUpdating_iff_deadKey? keyed, Option.isSome_iff_exists]
    exact exists_congr fun key => deadKey?_run_iff steps workspace path key
  · intro step
    cases isKey : step.operation.key? with
    | some key =>
        rw [(perform_outcome step keyed isKey).raised_iff]
        simp
    | none => simp [(perform_delete step _ isKey).1]

/-- A lookup that parses a file again in vain leaves it being updated, although nothing is going on any more. -/
theorem isUpdating_after_failed_lookup :
    let steps : List Step :=
      [⟨.update "/x.cpp" ["-Wall"] [], {}⟩, ⟨.definition "/x.cpp" 1 1 ["-Wall"] [] true, { reparseFails := true }⟩]
    ((isUpdating "/x.cpp").run.run (run steps ({}, {}))).1 = .ok true := by
  intro steps
  have answered : ((isUpdating "/x.cpp").run.run (run steps ({}, {}))).1.toOption = some true := by decide +kernel
  cases result : ((isUpdating "/x.cpp").run.run (run steps ({}, {}))).1 with
  | error fault =>
      rw [result] at answered
      cases answered
  | ok answer =>
      rw [result] at answered
      cases answered
      rfl

end Typeahead.Frontend.Engine

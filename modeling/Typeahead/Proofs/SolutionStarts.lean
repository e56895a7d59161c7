import Typeahead.Proofs.KeptCompletions
import Typeahead.Proofs.Since

/-! Starts of the solution server. A start takes its port before it looks for a solution and for the server, so one
that fails leaves the port behind, and a port is all that a report looks at before it starts the server. From then on
a report starts nothing until the server is stopped and says so. -/

namespace Typeahead.Completer.SolutionState

variable {state : SolutionState} {workspace : Workspace} {request : Value} {path : String} {fault : Fault}

section Asking

variable {question : String} {answer : Value}

/-- The workspace in which the server for solutions has been asked something. -/
def asked (state : SolutionState) (workspace : Workspace) (question : String) (parameters : List (String × String)) :
    Workspace :=
  { workspace with events := workspace.events ++
      [.query ("http://localhost:" ++ ((state.port.map toString).getD "None") ++ question) parameters] }

theorem run_ask (question : String) (parameters : List (String × String)) (state : SolutionState) (workspace : Workspace) :
    (ask question parameters).run.run (state, workspace) =
      (((workspace.solution.lookup question).map .ok).getD (.error (.network "no server")), state,
        asked state workspace question parameters) := by
  have addressed : address.run.run (state, workspace) =
      (.ok ("http://localhost:" ++ (state.port.map toString).getD "None"), state, workspace) := rfl
  have recorded : (Workspace.record (.query ("http://localhost:" ++ (state.port.map toString).getD "None" ++ question)
      parameters)).run.run workspace = (.ok (), asked state workspace question parameters) := rfl
  have ready : (asked state workspace question parameters).solution = workspace.solution := rfl
  unfold ask
  rw [Act.run_bind_ok addressed, Act.run_bind_ok (Act.run_lift_ok recorded state), Act.run_bind_ok (Act.run_get _)]
  simp only [ready]
  cases workspace.solution.lookup question <;> rfl

theorem run_ask_of_some (answered : workspace.solution.lookup question = some answer)
    (parameters : List (String × String)) :
    (ask question parameters).run.run (state, workspace) =
      (.ok answer, state, asked state workspace question parameters) := by
  rw [run_ask, answered]
  rfl

theorem run_ask_of_none (silent : workspace.solution.lookup question = none) (parameters : List (String × String)) :
    (ask question parameters).run.run (state, workspace) =
      (.error (.network "no server"), state, asked state workspace question parameters) := by
  rw [run_ask, silent]
  rfl

/-- The server has been given a port and says that it is alive. -/
def isAlive (state : SolutionState) (workspace : Workspace) : Bool :=
  state.hasPort && (workspace.solution.lookup "/checkalivestatus").any Value.isPresent

theorem run_isRunning (state : SolutionState) (workspace : Workspace) :
    ∃ events, isRunning.run.run (state, workspace) = (.ok (isAlive state workspace), state, { workspace with events }) := by
  unfold isRunning saysYes isAlive
  rw [Act.run_bind_ok (Act.run_get _)]
  cases given : state.hasPort with
  | false => exact ⟨workspace.events, rfl⟩
  | true =>
      refine ⟨(asked state workspace "/checkalivestatus" []).events, ?_⟩
      simp only [Bool.not_true, Bool.true_and, Bool.false_eq_true, if_false]
      cases found : workspace.solution.lookup "/checkalivestatus" with
      | none =>
          exact (Act.run_bind_ok ((Act.run_tryCatch_error (Act.run_bind_error (run_ask_of_none found []))).trans rfl)).trans
            rfl
      | some answer =>
          exact (Act.run_bind_ok (Act.run_tryCatch_ok ((Act.run_bind_ok (run_ask_of_some found [])).trans rfl))).trans rfl

theorem run_stop_of_isSome (answered : (workspace.solution.lookup "/stopserver").isSome) :
    stop.run.run (state, workspace) = (.ok (), { state with port := none }, asked state workspace "/stopserver" []) := by
  obtain ⟨answer, found⟩ := Option.isSome_iff_exists.mp answered
  unfold stop
  rw [Act.run_bind_ok (run_ask_of_some found [])]
  rfl

theorem run_stop_of_none (silent : workspace.solution.lookup "/stopserver" = none) :
    stop.run.run (state, workspace) =
      (.error (.network "no server"), state, asked state workspace "/stopserver" []) := by
  unfold stop
  exact Act.run_bind_error (run_ask_of_none silent [])

end Asking

section Starting

/-- The solutions that are named like the folder beside them in which a file lies. -/
def namedLikeFolder (names : List String) (folder path : String) : List String :=
  names.filter fun name => (Path.splitExtension (Path.name name)).1 ==
    ((Path.components path)[(Path.components folder).length]?).getD ""

/-- What keeps the server from being launched for a file. -/
inductive Obstacle (workspace : Workspace) (path : String) : Fault → Prop
  | noSolution (none : (Path.solutionsFor workspace path).1 = []) :
      Obstacle workspace path (.failed "Error starting OmniSharp server: no solutionfile found")
  | manySolutions {names : List String} {folder : String} (found : Path.solutionsFor workspace path = (names, folder))
      (many : 2 ≤ names.length) (undecided : (namedLikeFolder names folder path).length ≠ 1) :
      Obstacle workspace path
        (.failed ("Found multiple solution files instead of one!\n" ++ (Value.texts names).literal))
  | noServer {solution : String × String} (chosen : solutionFor workspace path = .ok solution)
      (missing : workspace.hasFile (serverPath workspace) = false) :
      Obstacle workspace path (.failed (serverMissing (serverPath workspace)))

theorem solutionsFrom_eq_nil (none : ∀ folder, Path.solutionsIn workspace folder = []) (place : String) :
    (Path.solutionsFrom workspace place).1 = [] := by
  fun_induction Path.solutionsFrom workspace place with
  | case1 place found isSome => exact absurd (none place) (by simpa [found] using isSome)
  | case2 place => exact none place
  | case3 place found isNone moves shorter ih => exact ih

theorem choose_eq_error_iff (names : List String) (folder path : String) :
    choose names folder path = .error fault ↔ (namedLikeFolder names folder path).length ≠ 1 ∧
      fault = .failed ("Found multiple solution files instead of one!\n" ++ (Value.texts names).literal) := by
  unfold choose namedLikeFolder
  dsimp only
  split
  · next name only => simp [only]
  · next other =>
      refine ⟨fun failed => ⟨fun one => ?_, (Except.error.inj failed).symm⟩, fun ⟨_, isFault⟩ => by rw [isFault]⟩
      obtain ⟨name, only⟩ := List.length_eq_one_iff.mp one
      exact other name only

theorem obstacle_of_solutionFor (failed : solutionFor workspace path = .error fault) : Obstacle workspace path fault := by
  unfold solutionFor at failed
  generalize found : Path.solutionsFor workspace path = solutions at failed
  obtain ⟨names, folder⟩ := solutions
  cases names with
  | nil =>
      cases failed
      exact .noSolution (by rw [found])
  | cons first rest =>
      cases rest with
      | nil => cases failed
      | cons second rest =>
          have undecided : choose (first :: second :: rest) folder path = .error fault := by
            change (choose _ _ _ >>= fun name => pure (name, folder)) = _ at failed
            generalize choose (first :: second :: rest) folder path = chosen at failed
            cases chosen with
            | error other =>
                cases failed
                rfl
            | ok name => cases failed
          obtain ⟨notOne, rfl⟩ := (choose_eq_error_iff _ folder path).mp undecided
          exact .manySolutions found (by simp) notOne

theorem solutionFor_of_many {names : List String} {folder : String}
    (found : Path.solutionsFor workspace path = (names, folder)) (many : 2 ≤ names.length) :
    solutionFor workspace path = (choose names folder path).map fun name => (name, folder) := by
  unfold solutionFor
  rw [found]
  match names, many with
  | first :: second :: rest, _ =>
      change (choose _ _ _ >>= fun name => pure (name, folder)) = _
      generalize choose (first :: second :: rest) folder path = chosen
      cases chosen <;> rfl

theorem run_spawn (command : String) (port : Int) (solution : String) (state : SolutionState) (workspace : Workspace) :
    ∃ logs later, (spawn command port solution).run.run (state, workspace) = (.ok .null, { state with logs }, later) ∧
      later.events = workspace.events ++ [.launch (.text command)] := by
  obtain ⟨folder, files, made⟩ : ∃ folder files,
      Workspace.temporaryFolder.run.run workspace = (.ok folder, { workspace with files }) := by
    unfold Workspace.temporaryFolder
    rw [Act.run_bind_ok (Act.run_get workspace)]
    dsimp only
    split
    · exact ⟨_, _, rfl⟩
    · exact ⟨_, workspace.files, rfl⟩
  unfold spawn
  rw [Act.run_bind_ok (Act.run_lift_ok made state)]
  exact ⟨_, _, rfl, rfl⟩

section Launch

variable (isPath : request.field "filepath" = .ok (.text path)) (port : Int) (state : SolutionState)

include isPath

theorem run_launch :
    (launch port request).run.run (state, workspace) = (do
      let solution ← solutionFor workspace path
      if !workspace.hasFile (serverPath workspace) then throw (.failed (serverMissing (serverPath workspace)))
      spawn (startCommand workspace (serverPath workspace) port (Path.join solution.2 solution.1)) port solution.1 :
        Doing Value).run.run (state, workspace) := by
  unfold launch
  rw [isPath, Act.run_bind_ok (Act.run_lift_except (.ok _) _)]
  simp only [pure_bind]
  rw [Act.run_bind_ok (Act.run_get _)]

theorem run_launch_of_error (failed : solutionFor workspace path = .error fault) :
    (launch port request).run.run (state, workspace) = (.error fault, state, workspace) := by
  rw [run_launch isPath, failed]
  exact Act.run_bind_error (Act.run_lift_except (.error fault) _)

theorem run_launch_of_missing {solution : String × String} (chosen : solutionFor workspace path = .ok solution)
    (missing : workspace.hasFile (serverPath workspace) = false) :
    (launch port request).run.run (state, workspace) =
      (.error (.failed (serverMissing (serverPath workspace))), state, workspace) := by
  rw [run_launch isPath, chosen, Act.run_bind_ok (Act.run_lift_except (.ok solution) _), missing]
  rfl

theorem run_launch_of_ready {solution : String × String} (chosen : solutionFor workspace path = .ok solution)
    (present : workspace.hasFile (serverPath workspace) = true) :
    ∃ logs command later, (launch port request).run.run (state, workspace) = (.ok .null, { state with logs }, later) ∧
      later.events = workspace.events ++ [.launch (.text command)] := by
  rw [run_launch isPath, chosen, Act.run_bind_ok (Act.run_lift_except (.ok solution) _), present]
  obtain ⟨logs, later, done, launched⟩ := run_spawn _ port solution.1 state workspace
  exact ⟨logs, _, later, done, launched⟩

end Launch

/-- A launch is refused before anything is changed, or comes to its end with the server launched. -/
theorem launch_cases (port : Int) (request : Value) (state : SolutionState) (workspace : Workspace) :
    (∃ fault, (launch port request).run.run (state, workspace) = (.error fault, state, workspace)) ∨
      ∃ logs command later, (launch port request).run.run (state, workspace) = (.ok .null, { state with logs }, later) ∧
        later.events = workspace.events ++ [.launch (.text command)] := by
  cases isPath : request.field "filepath" with
  | error fault =>
      left
      refine ⟨fault, ?_⟩
      unfold launch
      rw [isPath]
      exact Act.run_bind_error (Act.run_lift_except (.error fault) _)
  | ok value =>
      cases value with
      | text path =>
          cases chosen : solutionFor workspace path with
          | error fault => exact .inl ⟨fault, run_launch_of_error isPath port state chosen⟩
          | ok solution =>
              cases present : workspace.hasFile (serverPath workspace) with
              | false => exact .inl ⟨_, run_launch_of_missing isPath port state chosen present⟩
              | true => exact .inr (run_launch_of_ready isPath port state chosen present)
      | _ =>
          left
          unfold launch
          rw [isPath]
          exact ⟨_, (Act.run_bind_ok (Act.run_lift_except (.ok _) _)).trans rfl⟩

theorem run_start (request : Value) (state : SolutionState) (workspace : Workspace) :
    (start request).run.run (state, workspace) =
      (launch workspace.freePort request).run.run ({ state with port := some workspace.freePort }, workspace) := rfl

theorem run_start_of_obstacle (isPath : request.field "filepath" = .ok (.text path)) (state : SolutionState)
    (obstacle : Obstacle workspace path fault) :
    (start request).run.run (state, workspace) = (.error fault, { state with port := some workspace.freePort }, workspace) := by
  rw [run_start]
  cases obstacle with
  | noSolution none =>
      refine run_launch_of_error isPath _ _ ?_
      unfold solutionFor
      generalize Path.solutionsFor workspace path = solutions at none
      obtain ⟨names, folder⟩ := solutions
      obtain rfl : names = [] := none
      rfl
  | manySolutions found many undecided =>
      refine run_launch_of_error isPath _ _ ?_
      rw [solutionFor_of_many found many, (choose_eq_error_iff _ _ _).mpr ⟨undecided, rfl⟩]
      rfl
  | noServer chosen missing => exact run_launch_of_missing isPath _ _ chosen missing

/-- A start fails for want of a solution, for having several of them or for want of the server, and for nothing else. -/
theorem start_error_iff (isPath : request.field "filepath" = .ok (.text path)) :
    ((start request).run.run (state, workspace)).1 = .error fault ↔ Obstacle workspace path fault := by
  constructor
  · intro failed
    rw [run_start] at failed
    cases chosen : solutionFor workspace path with
    | error other =>
        rw [run_launch_of_error isPath _ _ chosen] at failed
        cases failed
        exact obstacle_of_solutionFor chosen
    | ok solution =>
        cases present : workspace.hasFile (serverPath workspace) with
        | false =>
            rw [run_launch_of_missing isPath _ _ chosen present] at failed
            cases failed
            exact .noServer chosen present
        | true =>
            obtain ⟨logs, command, later, done, _⟩ :=
              run_launch_of_ready isPath workspace.freePort { state with port := some workspace.freePort } chosen present
            rw [done] at failed
            cases failed
  · intro obstacle
    rw [run_start_of_obstacle isPath state obstacle]

/-- A start takes the port, and then is refused or launches the server. -/
theorem start_cases (request : Value) (state : SolutionState) (workspace : Workspace) :
    (∃ fault, (start request).run.run (state, workspace) =
        (.error fault, { state with port := some workspace.freePort }, workspace)) ∨
      ∃ logs command later, (start request).run.run (state, workspace) =
          (.ok .null, { state with port := some workspace.freePort, logs }, later) ∧
        later.events = workspace.events ++ [.launch (.text command)] :=
  launch_cases workspace.freePort request { state with port := some workspace.freePort } workspace

theorem port_start (request : Value) (state : SolutionState) (workspace : Workspace) :
    ((start request).run.run (state, workspace)).2.1.port = some workspace.freePort := by
  rcases start_cases request state workspace with ⟨fault, failed⟩ | ⟨logs, command, later, done, _⟩
  · rw [failed]
  · rw [done]

theorem settings_start (request : Value) (state : SolutionState) (workspace : Workspace) :
    ((start request).run.run (state, workspace)).2.1.core.settings = state.core.settings := by
  rcases start_cases request state workspace with ⟨fault, failed⟩ | ⟨logs, command, later, done, _⟩
  · rw [failed]
  · rw [done]

theorem run_start_bind_null (request : Value) (state : SolutionState) (workspace : Workspace) :
    (start request >>= fun _ => pure .null).run.run (state, workspace) = (start request).run.run (state, workspace) := by
  rw [Act.run_bind_pure]
  rcases start_cases request state workspace with ⟨fault, failed⟩ | ⟨logs, command, later, done, _⟩
  · rw [failed]
    rfl
  · rw [done]
    rfl

/-- A start does something: it is refused, or launches the server. -/
theorem start_not_idle (request : Value) (state : SolutionState) (workspace : Workspace) (value : Value) :
    (start request).run.run (state, workspace) ≠ (.ok value, state, workspace) := by
  rcases start_cases request state workspace with ⟨fault, failed⟩ | ⟨logs, command, later, done, launched⟩
  · rw [failed]
    intro same
    cases (Prod.mk.inj same).1
  -- A launch is recorded, and a record is never taken back.
  · rw [done]
    intro same
    have events : later.events = workspace.events := by rw [(Prod.mk.inj (Prod.mk.inj same).2).2]
    rw [launched] at events
    simp at events

end Starting

section Reporting

/-- A report of a file that is ready does what a start of the server does. -/
def TriesToStart (state : SolutionState) (workspace : Workspace) (report : Value) : Prop :=
  (notice .fileReadyToParse report).run.run (state, workspace) = (start report).run.run (state, workspace)

/-- The user has asked for something by an option. -/
def IsOn (settings : Settings) (option : String) : Prop := ∃ value, settings.option option = .ok value ∧ value.isPresent

theorem run_notice_of_hasPort (taken : state.hasPort) (report : Value) (workspace : Workspace) :
    (notice .fileReadyToParse report).run.run (state, workspace) = (.ok .null, state, workspace) := by
  unfold notice
  rw [if_pos rfl, Act.run_bind_ok (Act.run_get _)]
  simp only [taken]
  rfl

theorem run_notice_of_error (free : state.hasPort = false)
    (unset : state.core.settings.option "auto_start_csharp_server" = .error fault) (report : Value) (workspace : Workspace) :
    (notice .fileReadyToParse report).run.run (state, workspace) = (.error fault, state, workspace) := by
  unfold notice
  rw [if_pos rfl, Act.run_bind_ok (Act.run_get _)]
  simp only [free, unset]
  exact Act.run_bind_error (Act.run_lift_except (.error fault) _)

theorem run_notice_of_set (free : state.hasPort = false) (report : Value) (workspace : Workspace) {value : Value}
    (isSet : state.core.settings.option "auto_start_csharp_server" = .ok value) :
    (notice .fileReadyToParse report).run.run (state, workspace) =
      if value.isPresent then (start report).run.run (state, workspace) else (.ok .null, state, workspace) := by
  unfold notice
  rw [if_pos rfl, Act.run_bind_ok (Act.run_get _)]
  simp only [free, isSet]
  refine (Act.run_bind_ok (Act.run_lift_except (.ok value) _)).trans ?_
  split
  · exact run_start_bind_null report state workspace
  · rfl

theorem triesToStart_of_free (free : state.hasPort = false) (isOn : IsOn state.core.settings "auto_start_csharp_server")
    (workspace : Workspace) (report : Value) : TriesToStart state workspace report := by
  obtain ⟨value, isSet, present⟩ := isOn
  unfold TriesToStart
  rw [run_notice_of_set free report workspace isSet, if_pos present]

/-- Whether a report tries to start the server is decided by the port alone, once the user has asked for it. -/
theorem triesToStart_iff (isOn : IsOn state.core.settings "auto_start_csharp_server") (report : Value) :
    TriesToStart state workspace report ↔ state.hasPort = false := by
  cases taken : state.hasPort with
  | true =>
      unfold TriesToStart
      rw [run_notice_of_hasPort taken]
      simpa using (start_not_idle report state workspace .null).symm
  | false => exact iff_of_true (triesToStart_of_free taken isOn workspace report) rfl

/-- A report that does not try to start the server does nothing. -/
theorem notice_idle (report : Value) (quiet : ¬ TriesToStart state workspace report) :
    ((notice .fileReadyToParse report).run.run (state, workspace)).2 = (state, workspace) := by
  cases taken : state.hasPort with
  | true => rw [run_notice_of_hasPort taken]
  | false =>
      cases isSet : state.core.settings.option "auto_start_csharp_server" with
      | error fault => rw [run_notice_of_error taken isSet]
      | ok value =>
          rw [run_notice_of_set taken report workspace isSet, if_neg]
          exact fun present => quiet (triesToStart_of_free taken ⟨value, isSet, present⟩ workspace report)

end Reporting

section Calls

/-- The port and the options stay as they are, whether or not the act fails. -/
def Spares {α : Type} (act : Doing α) : Prop :=
  act.Keeps fun before after => (after.1.port, after.1.core.settings) = (before.1.port, before.1.core.settings)

theorem spares_lift {α : Type} (act : Act Workspace α) : Spares (liftM act : Doing α) := fun _ => rfl

theorem spares_ask (question : String) (parameters : List (String × String)) : Spares (ask question parameters) := by
  unfold ask
  refine Act.Keeps.bind (fun _ => rfl) fun _ => (spares_lift _).bind fun _ => Act.keeps_get.bind fun asked => ?_
  split
  · exact Act.keeps_pure _
  · exact Act.keeps_throw _

theorem spares_saysYes (question : String) : Spares (saysYes question) := by
  unfold saysYes
  refine Act.keeps_get.bind fun asking => ?_
  split
  · exact Act.keeps_pure _
  · refine .bind (.tryCatch ((spares_ask question []).bind fun _ => Act.keeps_pure _) fun _ => Act.keeps_pure _) fun ended => ?_
    cases ended <;> exact Act.keeps_pure _

theorem spares_gather (request : Value) : Spares (gather request) := by
  unfold gather
  refine Act.keeps_except_bind fun parameters => (spares_ask _ _).bind fun found => ?_
  split
  · exact (Act.keeps_pure _).bind fun _ => Act.keeps_except_bind fun _ => Act.keeps_pure _
  · exact Act.keeps_except_bind fun _ => Act.keeps_except_bind fun _ => Act.keeps_pure _

theorem spares_goToDefinition (request : Value) : Spares (goToDefinition request) := by
  unfold goToDefinition
  refine Act.keeps_except_bind fun parameters => (spares_ask _ _).bind fun found => Act.keeps_except_bind fun path => ?_
  split
  · exact Act.keeps_throw _
  · refine Act.keeps_except_bind fun line => Act.keeps_except_bind fun line => Act.keeps_except_bind fun column => ?_
    exact Act.keeps_except_bind fun column => Act.keeps_get.bind fun _ => Act.keeps_except _

theorem spares_status : Spares status := by
  unfold status
  refine (spares_saysYes _).bind fun runs => ?_
  split
  · refine Act.keeps_get.bind fun asking => ?_
    split
    · exact Act.Keeps.bind (fun _ => rfl) fun _ => Act.keeps_pure _
    · exact Act.keeps_throw _
  · exact Act.keeps_pure _

theorem spares_applies (request : Value) : Spares (solution.applies request) := by
  change Spares (appliesByTrigger (·.core) ["cs"] request)
  exact Act.keeps_get.bind fun _ => Act.keeps_except _

theorem spares_shouldUse (request : Value) : Spares (solution.shouldUse request) :=
  keeps_shouldUse (fun _ _ => rfl) rfl spares_applies request

theorem spares_compute (request : Value) : Spares (solution.compute request) := by
  have gathers : ∀ request, Spares (solution.gather request) := spares_gather
  exact keeps_compute (fun _ _ => rfl) rfl spares_shouldUse gathers request

/-- What an editor asks of the completer. -/
inductive Call where
  | shouldUse (request : Value)
  | compute (request : Value)
  | report (notice : Notice) (request : Value)
  | command (arguments request : Value)
  | detailedDiagnostic (request : Value)
  | debugInfo (request : Value)
  | status
  | shutdown

def Call.perform : Call → Doing Unit
  | .shouldUse request => do let _ ← solution.shouldUse request
  | .compute request => do let _ ← solution.compute request
  | .report notice request => do let _ ← solution.notice notice request
  | .command arguments request => do let _ ← solution.command arguments request
  | .detailedDiagnostic request => do let _ ← solution.detailedDiagnostic request
  | .debugInfo request => do let _ ← solution.debugInfo request
  | .status => do let _ ← SolutionState.status
  | .shutdown => solution.shutdown

/-- A call, and the workspace at that time. -/
structure Turn where
  call : Call
  workspace : Workspace
  isPort : workspace.freePort ≠ 0

namespace Turn

/-- The completer after a call, whether or not it fails. -/
def advance (state : SolutionState) (turn : Turn) : SolutionState :=
  (turn.call.perform.run.run (state, turn.workspace)).2.1

/-- The server has an answer ready when it is told to stop. -/
def isStopAnswered (turn : Turn) : Bool := (turn.workspace.solution.lookup "/stopserver").isSome

/-- A call stops the server, and the server answers. -/
def Stops (turn : Turn) (state : SolutionState) : Prop :=
  match turn.call with
  | .command arguments _ => arguments.item 0 = .ok (.text "StopServer") ∧ turn.isStopAnswered
  | .shutdown => IsOn state.core.settings "auto_stop_csharp_server" ∧ isAlive state turn.workspace ∧ turn.isStopAnswered
  | _ => False

/-- A call starts the server or tries to. A restart does unless a server that is alive does not answer when it is told
to stop. -/
def Starts (turn : Turn) (state : SolutionState) : Prop :=
  match turn.call with
  | .report .fileReadyToParse request => TriesToStart state turn.workspace request
  | .command arguments _ => arguments.item 0 = .ok (.text "StartServer") ∨
      (arguments.item 0 = .ok (.text "RestartServer") ∧ (isAlive state turn.workspace → turn.isStopAnswered))
  | _ => False

end Turn

theorem isPresent_of_item {arguments value : Value} {index : Int} (found : arguments.item index = .ok value) :
    arguments.isPresent := by
  cases arguments with
  | list items =>
      cases items with
      | nil => simp [Value.item, Value.nth] at found
      | cons first rest => rfl
  | text content =>
      by_cases absent : content = ""
      · simp [absent, Value.item, Value.nth, Except.map] at found
      · simpa [Value.isPresent] using absent
  | _ => cases found

section Commands

variable {arguments : Value}

theorem run_command_start (isStart : arguments.item 0 = .ok (.text "StartServer")) (request : Value)
    (both : SolutionState × Workspace) :
    (command arguments request).run.run both = (start request).run.run both := by
  unfold command
  rw [isPresent_of_item isStart, isStart]
  exact (Act.run_bind_ok (Act.run_lift_except (.ok _) _)).trans rfl

theorem run_command_stop (isStop : arguments.item 0 = .ok (.text "StopServer")) (request : Value)
    (both : SolutionState × Workspace) :
    (command arguments request).run.run both = (stop >>= fun _ => pure .null).run.run both := by
  unfold command
  rw [isPresent_of_item isStop, isStop]
  exact (Act.run_bind_ok (Act.run_lift_except (.ok _) _)).trans rfl

theorem run_command_restart (isRestart : arguments.item 0 = .ok (.text "RestartServer")) (request : Value)
    (both : SolutionState × Workspace) :
    (command arguments request).run.run both = (do
      if ← isRunning then stop
      start request : Doing Value).run.run both := by
  unfold command
  rw [isPresent_of_item isRestart, isRestart]
  exact (Act.run_bind_ok (Act.run_lift_except (.ok _) _)).trans rfl

theorem spares_command (notStart : arguments.item 0 ≠ .ok (.text "StartServer"))
    (notStop : arguments.item 0 ≠ .ok (.text "StopServer")) (notRestart : arguments.item 0 ≠ .ok (.text "RestartServer"))
    (request : Value) : Spares (command arguments request) := by
  unfold command
  split
  · exact Act.keeps_throw _
  · refine Act.keeps_except_bind_of fun value found => ?_
    split
    · exact absurd found notStart
    · exact absurd found notStop
    · exact absurd found notRestart
    · exact spares_ask _ _
    · exact (spares_saysYes _).bind fun _ => Act.keeps_pure _
    · exact (spares_saysYes _).bind fun _ => Act.keeps_pure _
    · exact spares_goToDefinition request
    · exact spares_goToDefinition request
    · exact spares_goToDefinition request
    · exact Act.keeps_throw _
    · exact Act.keeps_throw _
    · exact Act.keeps_throw _

/-- A restart is a start, unless a server that is alive does not answer when it is told to stop. -/
theorem restart_cases (request : Value) (state : SolutionState) (workspace : Workspace) :
    ((isAlive state workspace → (workspace.solution.lookup "/stopserver").isSome) ∧
      ∃ port events, (do
        if ← isRunning then stop
        start request : Doing Value).run.run (state, workspace) =
          (start request).run.run ({ state with port }, { workspace with events })) ∨
      (isAlive state workspace ∧ workspace.solution.lookup "/stopserver" = none ∧ ∃ fault events, (do
        if ← isRunning then stop
        start request : Doing Value).run.run (state, workspace) = (.error fault, state, { workspace with events })) := by
  obtain ⟨events, running⟩ := run_isRunning state workspace
  rw [Act.run_bind_ok running]
  cases alive : isAlive state workspace with
  | false => exact .inl ⟨nofun, state.port, events, rfl⟩
  | true =>
      cases answered : workspace.solution.lookup "/stopserver" with
      -- The port is given back before it is taken again.
      | some answer =>
          refine .inl ⟨fun _ => rfl, none, _, Act.run_bind_ok (run_stop_of_isSome ?_)⟩
          simp [answered]
      | none => exact .inr ⟨rfl, rfl, _, _, Act.run_bind_error (run_stop_of_none answered)⟩

end Commands

theorem shutdown_cases (state : SolutionState) (workspace : Workspace) :
    ((IsOn state.core.settings "auto_stop_csharp_server" ∧ isAlive state workspace ∧
        (workspace.solution.lookup "/stopserver").isSome) ∧
      (shutdown.run.run (state, workspace)).2.1 = { state with port := none }) ∨
      (¬ (IsOn state.core.settings "auto_stop_csharp_server" ∧ isAlive state workspace ∧
        (workspace.solution.lookup "/stopserver").isSome) ∧ (shutdown.run.run (state, workspace)).2.1 = state) := by
  unfold shutdown IsOn
  rw [Act.run_bind_ok (Act.run_get _)]
  dsimp only
  cases isSet : state.core.settings.option "auto_stop_csharp_server" with
  | error fault =>
      rw [Act.run_bind_error (Act.run_lift_except (.error fault) _)]
      simp
  | ok value =>
      rw [Act.run_bind_ok (Act.run_lift_except (.ok value) _)]
      cases present : value.isPresent with
      | false => exact .inr ⟨by simp [present], rfl⟩
      | true =>
          obtain ⟨events, running⟩ := run_isRunning state workspace
          rw [if_pos rfl, Act.run_bind_ok running]
          cases alive : isAlive state workspace with
          | false => exact .inr ⟨by simp, rfl⟩
          | true =>
              cases answered : workspace.solution.lookup "/stopserver" with
              | none =>
                  have silent : ({ workspace with events } : Workspace).solution.lookup "/stopserver" = none := answered
                  refine .inr ⟨by simp, ?_⟩
                  rw [if_pos rfl, run_stop_of_none silent]
              | some answer =>
                  have answers : (({ workspace with events } : Workspace).solution.lookup "/stopserver").isSome := by
                    simp [answered]
                  refine .inl ⟨⟨⟨value, rfl, present⟩, rfl, rfl⟩, ?_⟩
                  rw [if_pos rfl, run_stop_of_isSome answers]

namespace Turn

variable {turn : Turn}

/-- A call leaves the options as they are. It starts the server or tries to, and the port is a new one; or it stops the
server with an answer, and there is no port any more; or it leaves the port as it is, too. -/
def Moves (turn : Turn) (state : SolutionState) : Prop :=
  (turn.advance state).core.settings = state.core.settings ∧
    ((turn.Starts state ∧ ¬ turn.Stops state ∧ (turn.advance state).port = some turn.workspace.freePort) ∨
      (turn.Stops state ∧ ¬ turn.Starts state ∧ (turn.advance state).port = none) ∨
      (¬ turn.Starts state ∧ ¬ turn.Stops state ∧ (turn.advance state).port = state.port))

theorem moves_of_spares (spares : Spares turn.call.perform) (notStarts : ¬ turn.Starts state)
    (notStops : ¬ turn.Stops state) : turn.Moves state := by
  obtain ⟨port, settings⟩ := Prod.mk.inj (spares (state, turn.workspace))
  exact ⟨settings, .inr (.inr ⟨notStarts, notStops, port⟩)⟩

theorem state_effect {α : Type} (act : Doing α) (state : SolutionState) (workspace : Workspace) :
    ((do let _ ← act).run.run (state, workspace)).2.1 = (act.run.run (state, workspace)).2.1 := by
  rw [Act.run_effect]

theorem spares_effect {α : Type} {act : Doing α} (spares : Spares act) : Spares (do let _ ← act) :=
  spares.bind fun _ => Act.keeps_pure ()

section

variable (request : Value) (workspace : Workspace) (isPort : workspace.freePort ≠ 0) (state : SolutionState)

theorem moves_report (notice : Notice) : Moves ⟨.report notice request, workspace, isPort⟩ state := by
  have advanced : advance state ⟨.report notice request, workspace, isPort⟩ =
      ((SolutionState.notice notice request).run.run (state, workspace)).2.1 :=
    state_effect _ state workspace
  by_cases isReady : notice = .fileReadyToParse
  · subst isReady
    by_cases tries : TriesToStart state workspace request
    · rw [tries] at advanced
      refine ⟨?_, .inl ⟨tries, not_false, ?_⟩⟩
      · rw [advanced, settings_start]
      · rw [advanced, port_start]
    · rw [notice_idle request tries] at advanced
      refine ⟨?_, .inr (.inr ⟨tries, not_false, ?_⟩)⟩
      all_goals rw [advanced]
  · refine moves_of_spares (spares_effect ?_) ?_ not_false
    · change Spares (SolutionState.notice notice request)
      unfold SolutionState.notice
      rw [if_neg isReady]
      exact Act.keeps_pure _
    · cases notice <;> simp_all [Starts]

theorem moves_command (arguments : Value) : Moves ⟨.command arguments request, workspace, isPort⟩ state := by
  have advanced : advance state ⟨.command arguments request, workspace, isPort⟩ =
      ((SolutionState.command arguments request).run.run (state, workspace)).2.1 :=
    state_effect _ state workspace
  unfold Moves Starts Stops
  rw [advanced]
  dsimp only
  by_cases isStart : arguments.item 0 = .ok (.text "StartServer")
  · rw [run_command_start isStart, isStart]
    refine ⟨settings_start request state workspace, .inl ⟨.inl rfl, by simp, port_start request state workspace⟩⟩
  by_cases isStop : arguments.item 0 = .ok (.text "StopServer")
  · rw [run_command_stop isStop, isStop, Act.run_bind_pure]
    cases answered : workspace.solution.lookup "/stopserver" with
    | some answer =>
        rw [run_stop_of_isSome (by simp [answered])]
        exact ⟨rfl, .inr (.inl ⟨⟨rfl, by simp [isStopAnswered, answered]⟩, by simp, rfl⟩)⟩
    | none =>
        rw [run_stop_of_none answered]
        exact ⟨rfl, .inr (.inr ⟨by simp, by simp [isStopAnswered, answered], rfl⟩)⟩
  by_cases isRestart : arguments.item 0 = .ok (.text "RestartServer")
  · rw [run_command_restart isRestart, isRestart]
    rcases restart_cases request state workspace with ⟨goesOn, port, events, same⟩ | ⟨alive, silent, fault, events, same⟩
    · rw [same]
      refine ⟨settings_start request _ _, .inl ⟨.inr ⟨rfl, goesOn⟩, by simp, port_start request _ _⟩⟩
    · rw [same]
      exact ⟨rfl, .inr (.inr ⟨by simp [alive, isStopAnswered, silent], by simp, rfl⟩)⟩
  obtain ⟨port, settings⟩ := Prod.mk.inj (spares_command isStart isStop isRestart request (state, workspace))
  exact ⟨settings, .inr (.inr ⟨by simp [isStart, isRestart], by simp [isStop], port⟩)⟩

theorem moves_shutdown : Moves ⟨.shutdown, workspace, isPort⟩ state := by
  have advanced : advance state ⟨.shutdown, workspace, isPort⟩ = (shutdown.run.run (state, workspace)).2.1 := rfl
  unfold Moves Starts Stops
  rw [advanced]
  dsimp only
  rcases shutdown_cases state workspace with ⟨⟨isOn, alive, answered⟩, stopped⟩ | ⟨goesOn, same⟩
  · rw [stopped]
    exact ⟨rfl, .inr (.inl ⟨⟨isOn, alive, answered⟩, not_false, rfl⟩)⟩
  · rw [same]
    exact ⟨rfl, .inr (.inr ⟨not_false, goesOn, rfl⟩)⟩

end

theorem moves (turn : Turn) (state : SolutionState) : turn.Moves state := by
  obtain ⟨call, workspace, isPort⟩ := turn
  cases call with
  | shouldUse request => exact moves_of_spares (spares_effect (spares_shouldUse request)) not_false not_false
  | compute request => exact moves_of_spares (spares_effect (spares_compute request)) not_false not_false
  | report notice request => exact moves_report request workspace isPort state notice
  | command arguments request => exact moves_command request workspace isPort state arguments
  | detailedDiagnostic request => exact moves_of_spares (spares_effect (Act.keeps_throw _)) not_false not_false
  | debugInfo request => exact moves_of_spares (spares_effect (Act.keeps_throw _)) not_false not_false
  | status => exact moves_of_spares (spares_effect spares_status) not_false not_false
  | shutdown => exact moves_shutdown workspace isPort state

end Turn

end Calls

section Runs

/-- The completer after calls, one after another, whether or not they fail. -/
def afterTurns (state : SolutionState) (turns : List Turn) : SolutionState := turns.foldl Turn.advance state

theorem afterTurns_concat (state : SolutionState) (turns : List Turn) (last : Turn) :
    afterTurns state (turns ++ [last]) = last.advance (afterTurns state turns) := by
  simp [afterTurns]

theorem settings_afterTurns (state : SolutionState) (turns : List Turn) :
    (afterTurns state turns).core.settings = state.core.settings := by
  induction turns using List.reverseRecOn with
  | nil => rfl
  | append_singleton turns last ih => rw [afterTurns_concat, (last.moves _).1, ih]

/-- One of the calls has stopped the server with an answer, and no call since has started it or tried to. -/
def StoppedLast (state : SolutionState) (turns : List Turn) : Prop :=
  Since Turn.advance Turn.Stops Turn.Starts turns state

theorem hasPort_of_some {port : Int} (given : state.port = some port) (isPort : port ≠ 0) : state.hasPort := by
  simpa [hasPort, given] using isPort

theorem hasPort_of_none (free : state.port = none) : state.hasPort = false := by
  simp [hasPort, free]

theorem hasPort_afterTurns_iff (taken : state.hasPort) (turns : List Turn) :
    (afterTurns state turns).hasPort = false ↔ StoppedLast state turns := by
  induction turns using List.reverseRecOn with
  | nil => exact iff_of_false (by simpa [afterTurns] using taken) (not_since_nil state)
  | append_singleton turns last ih =>
      rw [afterTurns_concat, StoppedLast, since_concat_iff]
      change _ ↔ last.Stops (afterTurns state turns) ∨ (StoppedLast state turns ∧ ¬ last.Starts (afterTurns state turns))
      -- The last call settles the matter if it starts or stops the server; any other leaves it to those before.
      rw [← ih]
      rcases (last.moves (afterTurns state turns)).2 with ⟨starts, notStops, port⟩ | ⟨stops, notStarts, port⟩ |
        ⟨notStarts, notStops, port⟩
      · simp [starts, notStops, hasPort_of_some port last.isPort]
      · simp [stops, notStarts, hasPort_of_none port]
      · simp [notStarts, notStops, hasPort, port]

/-- A start fails for want of a solution or of the server, or because it cannot choose between solutions. It then leaves
the port that it has taken and nothing else, so the port is as it was only if it was that one already; and from then on
a report of a file that is ready tries again only if a stop has been answered since, and no other start has been tried
after it. -/
theorem start_retried_iff_stopped (isPath : request.field "filepath" = .ok (.text path)) (state : SolutionState)
    (workspace : Workspace) (isPort : workspace.freePort ≠ 0) :
    (∀ fault, ((start request).run.run (state, workspace)).1 = .error fault ↔ Obstacle workspace path fault) ∧
      ∀ fault, Obstacle workspace path fault →
        let failed : SolutionState := { state with port := some workspace.freePort }
        (start request).run.run (state, workspace) = (.error fault, failed, workspace) ∧
          (failed.port = state.port ↔ state.port = some workspace.freePort) ∧
          (IsOn state.core.settings "auto_start_csharp_server" → ∀ turns later report,
            TriesToStart (afterTurns failed turns) later report ↔ StoppedLast failed turns) := by
  refine ⟨fun fault => start_error_iff isPath, ?_⟩
  intro fault obstacle failed
  refine ⟨run_start_of_obstacle isPath state obstacle, eq_comm, fun isOn turns later report => ?_⟩
  have stillOn : IsOn (afterTurns failed turns).core.settings "auto_start_csharp_server" := by
    rw [settings_afterTurns]
    exact isOn
  rw [triesToStart_iff stillOn, hasPort_afterTurns_iff (hasPort_of_some rfl isPort)]

end Runs

/-- A completer that was just made, for a user who wants the server to be started. -/
def fresh : SolutionState := { core := ⟨⟨[("auto_start_csharp_server", .bool true)], .null, []⟩, {}⟩ }

/-- The completer once a start has been tried. -/
def tried : SolutionState := { fresh with port := some 54321 }

/-- A workspace without any file. -/
def bareWorkspace : Workspace := { freePort := 54321 }

def readyReport : Value := .record [("filepath", .text "/a.cs")]

def noSolutionFound : Fault := .failed "Error starting OmniSharp server: no solutionfile found"

theorem solutionsIn_bareWorkspace (folder : String) : Path.solutionsIn bareWorkspace folder = [] := by
  unfold Path.solutionsIn Workspace.names? Files.names?
  generalize Files.locate? _ _ _ = place?
  cases place? with
  | none => rfl
  | some place =>
      dsimp only
      split
      · rfl
      · simp [bareWorkspace, Text.sorted]

theorem obstacle_bareWorkspace : Obstacle bareWorkspace "/a.cs" noSolutionFound :=
  .noSolution (solutionsFrom_eq_nil solutionsIn_bareWorkspace _)

/-- Tells the server to stop, while it has an answer ready. -/
def answeredStop : Turn where
  call := .command (Value.texts ["StopServer"]) .null
  workspace := { bareWorkspace with solution := [("/stopserver", .bool true)] }
  isPort := by decide

/-- After a start that fails for want of a solution, it takes an answered stop for a report to try again. -/
theorem start_retried_iff_stopped_without_solution :
    Obstacle bareWorkspace "/a.cs" noSolutionFound ∧
      (start readyReport).run.run (fresh, bareWorkspace) = (.error noSolutionFound, tried, bareWorkspace) ∧
      tried.port ≠ fresh.port ∧ ¬ TriesToStart tried bareWorkspace readyReport ∧
      TriesToStart (afterTurns tried [answeredStop]) bareWorkspace readyReport := by
  have isPath : readyReport.field "filepath" = .ok (.text "/a.cs") := rfl
  have isOn : IsOn fresh.core.settings "auto_start_csharp_server" := ⟨_, rfl, rfl⟩
  obtain ⟨failed, sameIff, retried⟩ :=
    (start_retried_iff_stopped isPath fresh bareWorkspace (by decide)).2 noSolutionFound obstacle_bareWorkspace
  refine ⟨obstacle_bareWorkspace, failed, ?_, ?_, ?_⟩
  · exact fun same => nomatch sameIff.mp same
  · exact fun tries => not_since_nil tried ((retried isOn [] bareWorkspace readyReport).mp tries)
  · refine (retried isOn [answeredStop] bareWorkspace readyReport).mpr ?_
    exact (since_concat_iff [] answeredStop tried).mpr (.inl ⟨rfl, rfl⟩)

/-- A report fails to start the server and takes a port, and the next one does nothing. -/
theorem failed_start_not_retried :
    fresh.port = none ∧
      (notice .fileReadyToParse readyReport).run.run (fresh, bareWorkspace) =
        (.error noSolutionFound, tried, bareWorkspace) ∧
      (notice .fileReadyToParse readyReport).run.run (tried, bareWorkspace) = (.ok .null, tried, bareWorkspace) := by
  refine ⟨rfl, ?_, run_notice_of_hasPort (by decide) readyReport bareWorkspace⟩
  rw [run_notice_of_set (by decide) readyReport bareWorkspace rfl]
  exact run_start_of_obstacle rfl fresh obstacle_bareWorkspace

end Typeahead.Completer.SolutionState

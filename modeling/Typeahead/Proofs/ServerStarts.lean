import Typeahead.Proofs.CalmCalls

namespace Typeahead.Client

/-! Starts of the server. Once a start has succeeded, the interpreter and the options that the next one needs are there,
so nothing keeps a restart from launching the server. -/

open Act Editor

variable {α : Type} {state before after : Client × Workspace}

/-- The user is not told anything, and what a start of the server needs stays known. -/
structure Untold (before after : Client × Workspace) : Prop where
  hushed : Hushed before.2 after.2
  isNotified : after.1.isNotified = before.1.isNotified
  options : after.1.options = before.1.options

instance : Chains Untold where
  refl state := ⟨Chains.refl state.2, rfl, rfl⟩
  trans first second :=
    ⟨first.hushed.trans second.hushed, second.isNotified.trans first.isNotified, second.options.trans first.options⟩

theorem Undisturbed.untold (undisturbed : Undisturbed before after) : Untold before after :=
  ⟨undisturbed.calm.toHushed, undisturbed.isNotified, undisturbed.options⟩

theorem untold_lift {act : Act Workspace α} (hushed : act.Keeps Hushed) : (liftM act : Doing α).Keeps Untold :=
  hushed.on fun _ _ later => ⟨later, rfl, rfl⟩

theorem untold_option (key : String) : (option key).Keeps Untold := fun state => (undisturbed_option key state).untold

/-- A change of the files is not heard of. -/
theorem hushed_files (files : Files) (workspace : Workspace) : Hushed workspace { workspace with files } :=
  ⟨⟨[], (List.append_nil _).symm, nofun⟩, rfl, fun _ => rfl⟩

theorem hushed_temporaryFolder : Workspace.temporaryFolder.Keeps Hushed := by
  intro workspace
  unfold Workspace.temporaryFolder
  rw [run_bind_ok (run_get workspace)]
  dsimp only
  split
  · exact hushed_files _ workspace
  · exact Chains.refl workspace

theorem hushed_removeFile (path : String) : (Machine.removeFile path).Keeps Hushed := by
  refine keeps_modify fun workspace => ?_
  split
  · exact hushed_files _ workspace
  · exact Chains.refl workspace

theorem hushed_findInterpreter : Machine.findInterpreter.Keeps Hushed := by
  refine keeps_get.bind fun workspace => ?_
  split
  · exact keeps_get.bind fun _ => keeps_pure _
  · refine (keeps_evaluate _).bind fun chosen => ?_
    split
    · exact keeps_pure _
    · exact keeps_get.bind fun _ => keeps_except_bind fun _ => keeps_pure _

/-- The interpreter that is looked for is known from then on. -/
theorem run_interpreter (workspace : Workspace) :
    Hushed workspace (Machine.interpreter.run.run workspace).2 ∧
      ((∃ found, (Machine.interpreter.run.run workspace).1 = .ok found) →
        (Machine.interpreter.run.run workspace).2.interpreter.isSome) := by
  unfold Machine.interpreter
  rw [run_bind_ok (run_get workspace)]
  cases known : workspace.interpreter with
  | some found => exact ⟨Chains.refl workspace, fun _ => Option.isSome_iff_exists.mpr ⟨found, known⟩⟩
  | none =>
      dsimp only
      rcases running : Machine.findInterpreter.run.run workspace with ⟨result, after⟩
      have looking := hushed_findInterpreter.of_run running
      cases result with
      | error fault =>
          rw [run_bind_error running]
          exact ⟨looking, nofun⟩
      | ok found =>
          have noted : (modify fun workspace => { workspace with interpreter := some found } :
              Act Workspace Unit).run.run after = (.ok (), { after with interpreter := some found }) := rfl
          rw [run_bind_ok running, run_bind_ok noted]
          refine ⟨⟨looking.adds, looking.ended, fun isKnown => ?_⟩, fun _ => rfl⟩
          rw [known] at isKnown
          cases isKnown

/-- What a start of the server needs: the interpreter and its options. -/
structure Ready (state : Client × Workspace) : Prop where
  interpreter : state.2.interpreter.isSome
  level : (state.1.options.lookup "server_log_level").isSome
  logs : ∃ flag, state.1.options.lookup "server_use_vim_stdout" = some flag ∧
    (flag.isPresent = true ∨ (state.1.options.lookup "server_keep_logfiles").isSome)

theorem Ready.of_untold (ready : Ready before) (untold : Untold before after) : Ready after where
  interpreter := by
    rw [untold.hushed.interpreter ready.interpreter]
    exact ready.interpreter
  level := by
    rw [untold.options]
    exact ready.level
  logs := by
    rw [untold.options]
    exact ready.logs

theorem untold_logArguments (port : Int) : (logArguments port).Keeps Untold := by
  have noting (logs : String × String) : (change fun client => { client with logs := some logs }).Keeps Untold :=
    fun state => ⟨Chains.refl state.2, rfl, rfl⟩
  refine (untold_option _).bind fun flag => ?_
  split
  · exact keeps_pure _
  · refine (untold_lift hushed_temporaryFolder).bind fun _ => (noting _).bind fun _ => ?_
    exact (untold_option _).bind fun _ => keeps_pure _

/-- A start of the server up to the moment when it is launched: the port and the arguments. -/
def preparation : Doing (Int × List Value) := do
  let port := (← get).2.freePort
  let file := Path.join (← get).2.places.temporary "options"
  change fun client => { client with optionsFile := file }
  Workspace.write file (.text (Value.record (← get).1.options).exchange) none
  let interpreter ← (Machine.interpreter : Act Workspace Value)
  let level ← option "server_log_level"
  let arguments := [.text (serverScript (← get).2), .text ("--port=" ++ toString port),
    .text ("--options_file=" ++ file), .text ("--log=" ++ level.display),
    .text ("--idle_suicide_seconds=" ++ toString idleSeconds)]
  let arguments := arguments ++ (← logArguments port).map Value.text
  return (port, interpreter :: arguments)

theorem startServer_eq : startServer = (do
    let (port, arguments) ← preparation
    Workspace.record (.launch (.list arguments))
    change fun client => { client with isLaunched := true }
    modify fun (client, workspace) =>
      (client, { workspace with serverAddress := "http://localhost:" ++ toString port })
    notifyIfCrashed) := by
  simp only [startServer, preparation, bind_assoc, pure_bind]

theorem run_option_of_given {key : String} {value : Value} (given : state.1.options.lookup key = some value) :
    (option key).run.run state = (.ok value, state) := by
  unfold option
  rw [run_bind_ok (run_get state), given]
  rfl

theorem run_option_of_missing {key : String} (missing : state.1.options.lookup key = none) :
    (option key).run.run state = (.error (.missing (.text key)), state) := by
  unfold option
  rw [run_bind_ok (run_get state), missing]
  rfl

/-- Something succeeds from a state. -/
def Succeeds (act : Doing α) (state : Client × Workspace) : Prop :=
  ∃ value after, act.run.run state = (.ok value, after)

theorem succeeds_option_bind_iff {key : String} {next : Value → Doing α} :
    Succeeds (option key >>= next) state ↔
      ∃ value, state.1.options.lookup key = some value ∧ Succeeds (next value) state := by
  cases given : state.1.options.lookup key with
  | none =>
      rw [Succeeds, run_bind_error (run_option_of_missing given)]
      constructor
      · rintro ⟨_, _, failed⟩
        cases failed
      · rintro ⟨_, found, _⟩
        cases found
  | some value =>
      rw [Succeeds, run_bind_ok (run_option_of_given given)]
      simp [Succeeds]

theorem exists_run_temporaryFolder (workspace : Workspace) :
    ∃ folder after, Workspace.temporaryFolder.run.run workspace = (.ok folder, after) := by
  unfold Workspace.temporaryFolder
  rw [run_bind_ok (run_get workspace)]
  dsimp only
  split <;> exact ⟨_, _, rfl⟩

theorem succeeds_logArguments_iff (port : Int) :
    Succeeds (logArguments port) state ↔ ∃ flag, state.1.options.lookup "server_use_vim_stdout" = some flag ∧
      (flag.isPresent = true ∨ (state.1.options.lookup "server_keep_logfiles").isSome) := by
  unfold logArguments
  rw [succeeds_option_bind_iff]
  refine exists_congr fun flag => and_congr_right fun _ => ?_
  split
  · rename_i isPresent
    exact ⟨fun _ => .inl isPresent, fun _ => ⟨_, _, rfl⟩⟩
  · rename_i isAbsent
    obtain ⟨folder, after, found⟩ := exists_run_temporaryFolder state.2
    have noted (client : Client) (logs : String × String) :
        (change fun client => { client with logs := some logs }).run.run (client, after) =
          (.ok (), ({ client with logs := some logs }, after)) := rfl
    rw [or_iff_right isAbsent, Option.isSome_iff_exists, Succeeds, run_bind_ok (run_lift_ok found state.1),
      run_bind_ok (noted _ _)]
    exact succeeds_option_bind_iff.trans (exists_congr fun _ => and_iff_left ⟨_, _, rfl⟩)

/-- Something that tells the user nothing and succeeds wherever a start of the server has what it needs. -/
structure Proceeds (act : Doing α) : Prop where
  untold : act.Keeps Untold
  succeeds : ∀ state, Ready state → Succeeds act state

theorem Proceeds.bind {β : Type} {act : Doing α} {next : α → Doing β} (first : Proceeds act)
    (rest : ∀ value, Proceeds (next value)) : Proceeds (act >>= next) where
  untold := first.untold.bind fun value => (rest value).untold
  succeeds state ready := by
    obtain ⟨value, after, done⟩ := first.succeeds state ready
    obtain ⟨last, ended, finished⟩ := (rest value).succeeds after (ready.of_untold (first.untold.of_run done))
    exact ⟨last, ended, (run_bind_ok done).trans finished⟩

theorem proceeds_get : Proceeds (get : Doing (Client × Workspace)) := ⟨keeps_get, fun state _ => ⟨state, state, rfl⟩⟩

theorem proceeds_interpreter : Proceeds (liftM Machine.interpreter : Doing Value) where
  untold := untold_lift fun workspace => (run_interpreter workspace).1
  succeeds state ready := by
    obtain ⟨interpreter, known⟩ := Option.isSome_iff_exists.mp ready.interpreter
    have found : Machine.interpreter.run.run state.2 = (.ok interpreter, state.2) := by
      unfold Machine.interpreter
      rw [run_bind_ok (run_get _), known]
      rfl
    exact ⟨interpreter, _, run_lift_ok found state.1⟩

theorem proceeds_level : Proceeds (option "server_log_level") where
  untold := untold_option _
  succeeds state ready := by
    obtain ⟨level, given⟩ := Option.isSome_iff_exists.mp ready.level
    exact ⟨level, state, run_option_of_given given⟩

theorem proceeds_preparation : Proceeds preparation := by
  have noting (file : String) : Proceeds (change fun client => { client with optionsFile := file }) :=
    ⟨fun state => ⟨Chains.refl state.2, rfl, rfl⟩, fun _ _ => ⟨_, _, rfl⟩⟩
  have writing (file : String) (content : Content) :
      Proceeds (liftM (Workspace.write file content none) : Doing Unit) :=
    ⟨untold_lift fun workspace => hushed_files _ workspace, fun _ _ => ⟨_, _, rfl⟩⟩
  have logging (port : Int) : Proceeds (logArguments port) :=
    ⟨untold_logArguments port, fun _ ready => (succeeds_logArguments_iff port).mpr ready.logs⟩
  refine proceeds_get.bind fun _ => proceeds_get.bind fun _ => (noting _).bind fun _ => proceeds_get.bind fun _ => ?_
  refine (writing _ _).bind fun _ => proceeds_interpreter.bind fun _ => proceeds_level.bind fun _ => ?_
  refine proceeds_get.bind fun _ => (logging _).bind fun _ => ?_
  exact ⟨keeps_pure _, fun _ _ => ⟨_, _, rfl⟩⟩

/-- What is there after a successful preparation is there for the next one. -/
theorem ready_of_preparation {value : Int × List Value} (done : preparation.run.run state = (.ok value, after)) :
    Ready after := by
  unfold preparation at done
  iterate 4 obtain ⟨_, _, _, done⟩ := exists_of_run_bind_ok done
  obtain ⟨_, written, _, done⟩ := exists_of_run_bind_ok done
  obtain ⟨interpreter, found, looked, done⟩ := exists_of_run_bind_ok done
  obtain ⟨workspace, lookedUp, rfl⟩ := exists_of_run_lift_ok looked
  have ready : Ready (written.1, workspace) := by
    obtain ⟨level, isLevel, _, _, logged⟩ := succeeds_option_bind_iff.mp ⟨_, _, done⟩
    rw [run_bind_ok (run_get _)] at logged
    obtain ⟨_, _, logged, _⟩ := exists_of_run_bind_ok logged
    have known := (run_interpreter _).2 ⟨interpreter, congrArg Prod.fst lookedUp⟩
    rw [lookedUp] at known
    exact ⟨known, Option.isSome_iff_exists.mpr ⟨level, isLevel⟩, (succeeds_logArguments_iff _).mp ⟨_, _, logged⟩⟩
  refine ready.of_untold (Keeps.of_run ?_ done)
  exact proceeds_level.untold.bind fun _ => keeps_get.bind fun _ => (untold_logArguments _).bind fun _ => keeps_pure _

end Typeahead.Client

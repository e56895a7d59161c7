import Mathlib.Data.List.Infix
import Typeahead.Proofs.ServerStarts

namespace Typeahead

/-! The notice that the server is gone. A client tells the user once after each start of the server, when it reports a
file or has just started the server and the process has ended by then. The notice is meant to show the end of the
server's log, but it shows what stands before the last lines. -/

section Trace

/-- Events with at most one notice after each start of a server. The flag tells whether there is one since the last
start. -/
inductive Notified : Bool → List Event → Prop
  | start : Notified false []
  | quiet {told : Bool} {events : List Event} {event : Event} (before : Notified told events)
      (quiet : event.isQuiet = true) : Notified told (events ++ [event])
  | launch {told : Bool} {events : List Event} (before : Notified told events) (arguments : Value) :
      Notified false (events ++ [.launch arguments])
  | notice {events : List Event} {event : Event} (before : Notified false events) (isNotice : event.isNotice = true) :
      Notified true (events ++ [event])

variable {told : Bool} {events added segment : List Event}

theorem Notified.append (before : Notified told events) (quiet : ∀ event ∈ added, event.isQuiet = true) :
    Notified told (events ++ added) := by
  induction added generalizing events with
  | nil => rwa [List.append_nil]
  | cons event added ih =>
      obtain ⟨first, rest⟩ := List.forall_mem_cons.mp quiet
      rw [List.append_cons]
      exact ih (before.quiet first) rest

theorem Event.not_isNotice_of_isQuiet {event : Event} (quiet : event.isQuiet = true) : event.isNotice = false := by
  simp only [Event.isQuiet, Bool.and_eq_true, Bool.not_eq_true'] at quiet
  exact quiet.2

theorem Notified.countP_suffix_le (notified : Notified told events) (isLast : segment <:+ events)
    (noLaunch : ∀ event ∈ segment, event.isLaunch = false) : segment.countP Event.isNotice ≤ told.toNat := by
  induction notified generalizing segment with
  | start => simp [List.suffix_nil.mp isLast]
  | quiet _ quiet ih =>
      obtain rfl | ⟨earlier, rfl, before⟩ := List.suffix_concat_iff.mp isLast
      · simp
      · rw [List.countP_append, List.countP_singleton, Event.not_isNotice_of_isQuiet quiet]
        exact ih before fun event member => noLaunch event (List.mem_append_left _ member)
  | launch _ arguments _ =>
      obtain rfl | ⟨earlier, rfl, _⟩ := List.suffix_concat_iff.mp isLast
      · simp
      · exact absurd (noLaunch (.launch arguments) (by simp)) nofun
  | notice _ isNotice ih =>
      obtain rfl | ⟨earlier, rfl, before⟩ := List.suffix_concat_iff.mp isLast
      · simp
      · have none := ih before fun event member => noLaunch event (List.mem_append_left _ member)
        rw [List.countP_append, List.countP_singleton, isNotice]
        exact Nat.add_le_add_right none 1

/-- Between two starts there is at most one notice. -/
theorem Notified.countP_infix_le_one (notified : Notified told events) (within : segment <:+: events)
    (noLaunch : ∀ event ∈ segment, event.isLaunch = false) : segment.countP Event.isNotice ≤ 1 := by
  have atEnd {told : Bool} {events : List Event} (notified : Notified told events) (isLast : segment <:+ events) :
      segment.countP Event.isNotice ≤ 1 :=
    (notified.countP_suffix_le isLast noLaunch).trans (Bool.toNat_le told)
  induction notified with
  | start => simp [List.infix_nil.mp within]
  | quiet before quiet ih => exact (List.infix_concat_iff.mp within).elim (atEnd (before.quiet quiet)) ih
  | launch before arguments ih => exact (List.infix_concat_iff.mp within).elim (atEnd (before.launch arguments)) ih
  | notice before isNotice ih => exact (List.infix_concat_iff.mp within).elim (atEnd (before.notice isNotice)) ih

end Trace

namespace Text

/-! Lines of a text: all of them end with a line feed but perhaps the last. They can be read off the text that they make
up. -/

inductive Lined : List (List Char) → Prop
  | nil : Lined []
  | unfinished {line : List Char} (inside : line ≠ []) (noFeed : '\n' ∉ line) : Lined [line]
  | cons {line : List Char} {lines : List (List Char)} (noFeed : '\n' ∉ line) (rest : Lined lines) :
      Lined ((line ++ ['\n']) :: lines)

variable {lines : List (List Char)}

theorem lined_lineChars (text : List Char) : Lined (lineChars text) := by
  fun_induction lineChars text with
  | case1 => exact .nil
  | case2 rest ih => exact @Lined.cons [] _ List.not_mem_nil ih
  | case3 character rest other line lines found ih =>
      rw [found] at ih
      cases ih with
      | unfinished inside noFeed =>
          exact .unfinished (List.cons_ne_nil _ _) (List.not_mem_cons_of_ne_of_not_mem (Ne.symm other) noFeed)
      | cons noFeed rest => exact .cons (List.not_mem_cons_of_ne_of_not_mem (Ne.symm other) noFeed) rest
  | case4 character rest other found ih =>
      exact .unfinished (List.cons_ne_nil _ _) (List.not_mem_cons_of_ne_of_not_mem (Ne.symm other) List.not_mem_nil)

theorem lineChars_of_not_mem {line : List Char} (inside : line ≠ []) (noFeed : '\n' ∉ line) :
    lineChars line = [line] := by
  induction line with
  | nil => exact absurd rfl inside
  | cons character line ih =>
      obtain ⟨other, noFeed⟩ := List.ne_and_not_mem_of_not_mem_cons noFeed
      rw [lineChars]
      · cases line with
        | nil => rfl
        | cons next line => rw [ih (List.cons_ne_nil _ _) noFeed]
      · exact Ne.symm other

theorem lineChars_append {line : List Char} (noFeed : '\n' ∉ line) (rest : List Char) :
    lineChars (line ++ '\n' :: rest) = (line ++ ['\n']) :: lineChars rest := by
  induction line with
  | nil => rw [List.nil_append, List.nil_append, lineChars]
  | cons character line ih =>
      obtain ⟨other, noFeed⟩ := List.ne_and_not_mem_of_not_mem_cons noFeed
      rw [List.cons_append, lineChars, ih noFeed]
      · rfl
      · exact Ne.symm other

theorem lineChars_flatten (lined : Lined lines) : lineChars lines.flatten = lines := by
  induction lined with
  | nil => rfl
  | unfinished inside noFeed => rw [List.flatten_singleton, lineChars_of_not_mem inside noFeed]
  | cons noFeed rest ih =>
      rw [List.flatten_cons, List.append_assoc, List.singleton_append, lineChars_append noFeed, ih]

theorem Lined.take (lined : Lined lines) (count : Nat) : Lined (lines.take count) := by
  induction lined generalizing count with
  | nil => simpa using Lined.nil
  | unfinished inside noFeed =>
      cases count with
      | zero => exact .nil
      | succ count => simpa using Lined.unfinished inside noFeed
  | cons noFeed rest ih =>
      cases count with
      | zero => exact .nil
      | succ count => exact .cons noFeed (ih count)

theorem Lined.drop (lined : Lined lines) (count : Nat) : Lined (lines.drop count) := by
  induction lined generalizing count with
  | nil => simpa using Lined.nil
  | unfinished inside noFeed =>
      cases count with
      | zero => exact .unfinished inside noFeed
      | succ count => simpa using Lined.nil
  | cons noFeed rest ih =>
      cases count with
      | zero => exact .cons noFeed rest
      | succ count => exact ih count

theorem join_map_ofList (lines : List (List Char)) :
    String.join (lines.map String.ofList) = String.ofList lines.flatten := by
  apply String.toList_inj.mp
  rw [String.toList_join, String.toList_ofList, List.flatMap_map]
  simp

/-- Lines that make up the same text are the same lines. -/
theorem join_take_eq_join_drop_iff (text : String) (first last : Nat) :
    String.join ((Text.lines text).take first) = String.join ((Text.lines text).drop last) ↔
      (Text.lines text).take first = (Text.lines text).drop last := by
  refine ⟨fun same => ?_, congrArg String.join⟩
  have lined := lined_lineChars (unifyLineEnds text.toList)
  unfold Text.lines at same ⊢
  rw [← List.map_take, ← List.map_drop] at same ⊢
  rw [join_map_ofList, join_map_ofList, String.ofList_inj] at same
  rw [← lineChars_flatten (lined.take first), same, lineChars_flatten (lined.drop last)]

end Text

namespace Client

open Act Editor

section Notifying

/-- What stands in the notice about a log. -/
def noticeFor (content : String) : Event :=
  .command (noticeCommand (noticeHeading ++ String.join (noticePart (Text.lines content))))

/-- What it can come to that the user is told: nothing where they know already or the server runs, something else than
a notice where no log can be read, or the notice. -/
inductive Notifies (before : Client × Workspace) : Client × Workspace → Prop
  | spared (needless : before.1.isNotified = true ∨ before.2.processEnd = .null) : Notifies before before
  | unread {after : Workspace} (untold : before.1.isNotified = false) (ended : before.2.processEnd ≠ .null)
      (noLog : ∀ output errors, before.1.logs = some (output, errors) → before.2.contents? errors = none)
      (calm : Calm before.2 after) : Notifies before ({ before.1 with isNotified := true }, after)
  | shown {output errors content : String} (untold : before.1.isNotified = false) (ended : before.2.processEnd ≠ .null)
      (logs : before.1.logs = some (output, errors)) (log : before.2.contents? errors = some content) :
      Notifies before
        ({ before.1 with isNotified := true }, { before.2 with events := before.2.events ++ [noticeFor content] })

theorem run_isServerAlive (state : Client × Workspace) :
    isServerAlive.run.run state = (.ok (state.2.processEnd matches .null), state) := rfl

theorem isGone_of_ended {workspace : Workspace} (ended : workspace.processEnd ≠ .null) :
    (workspace.processEnd matches .null) = false := by
  cases processEnd : workspace.processEnd with
  | null => exact absurd processEnd ended
  | _ => rfl

theorem notifies_notifyIfCrashed (state : Client × Workspace) : Notifies state (notifyIfCrashed.run.run state).2 := by
  obtain ⟨⟨options, diagnostics, omni, isNotified, logs, isLaunched, file, sent, completion, parse⟩, workspace⟩ := state
  unfold notifyIfCrashed
  rw [run_bind_ok (run_get _)]
  cases isNotified with
  | true => exact .spared (.inl rfl)
  | false =>
      rw [if_neg Bool.false_ne_true, run_bind_ok (run_isServerAlive _)]
      by_cases ended : workspace.processEnd = .null
      · rw [ended]
        exact .spared (.inr ended)
      · have noted (client : Client) : (change fun client => { client with isNotified := true }).run.run
            (client, workspace) = (.ok (), ({ client with isNotified := true }, workspace)) := rfl
        rw [isGone_of_ended ended, if_neg Bool.false_ne_true, run_bind_ok (noted _), run_bind_ok (run_get _)]
        cases logs with
        | none => exact .unread rfl ended nofun (calm_record (quiet_messageCommand _) workspace)
        | some names =>
            dsimp only
            rw [run_bind_ok (run_get _)]
            cases log : workspace.contents? names.2 with
            | none =>
                refine .unread rfl ended (fun output errors isLog => ?_) (Chains.refl workspace)
                cases isLog
                exact log
            | some content => exact .shown rfl ended rfl log

end Notifying

section Calls

/-- The calls that an editor makes to its client. -/
inductive Call where
  | restartServer
  | complete (query : Value) (isForced : Bool)
  | makeCompletion (isForced : Bool)
  | runCommand (arguments target : Value)
  | definedSubcommands
  | hasOwnCompleter
  | isUsable
  | isEnabled
  | fileReady
  | bufferUnload (path : Value)
  | bufferVisit
  | insertLeave
  | identifierFinished
  | cursorMoved
  | leave
  | diagnosticsReady
  | takeDiagnostics (asItems : Bool)
  | updateDiagnostics
  | showDetails
  | debugInfo

/-- What a call does, its answer aside. -/
def Call.perform : Call → Doing Unit
  | restartServer => Client.restartServer
  | complete query isForced => do let _ ← Session.completionsStep query isForced
  | makeCompletion isForced => do let _ ← Client.makeCompletion isForced
  | runCommand arguments target => do let _ ← Client.runCommand arguments target
  | definedSubcommands => do let _ ← Client.definedSubcommands
  | hasOwnCompleter => do let _ ← Client.hasOwnCompleter
  | isUsable => do let _ ← Client.isUsable
  | isEnabled => do let _ ← Client.isEnabled
  | fileReady => Client.fileReady
  | bufferUnload path => Client.bufferUnload path
  | bufferVisit => Client.bufferVisit
  | insertLeave => Client.insertLeave
  | identifierFinished => Client.identifierFinished
  | cursorMoved => Client.cursorMoved
  | leave => stopServer
  | diagnosticsReady => do let _ ← Client.diagnosticsReady
  | takeDiagnostics asItems => do let _ ← Client.takeDiagnostics asItems
  | updateDiagnostics => Client.updateDiagnostics
  | showDetails => Client.showDetails
  | debugInfo => do let _ ← Client.debugInfo

/-- The server has just been launched. -/
def launched (prepared : Client × Workspace) (arguments : Value) (address : String) : Client × Workspace :=
  ({ prepared.1 with isLaunched := true },
    { prepared.2 with events := prepared.2.events ++ [.launch arguments], serverAddress := address })

/-- What a call can come to. -/
inductive Effect (before : Client × Workspace) : Client × Workspace → Prop
  | untold {after : Client × Workspace} (untold : Untold before after) : Effect before after
  | reported {asked told after : Client × Workspace} (asking : Undisturbed before asked)
      (notifies : Notifies asked told) (rest : Undisturbed told after) : Effect before after
  | restarted {prepared after : Client × Workspace} (arguments : Value) (address : String)
      (untold : Untold ({ before.1 with isNotified := false }, before.2) prepared)
      (notifies : Notifies (launched prepared arguments address) after) : Effect before after

variable {α : Type} {state before after : Client × Workspace}

theorem run_startServer {value : Int × List Value} (done : preparation.run.run state = (.ok value, after)) :
    startServer.run.run state =
      notifyIfCrashed.run.run (launched after (.list value.2) ("http://localhost:" ++ toString value.1)) := by
  rw [startServer_eq, run_bind_ok done]
  rfl

theorem proceeds_stopServer : Proceeds stopServer := by
  have alive : Proceeds isServerAlive :=
    ⟨fun state => (undisturbed_isServerAlive state).untold, fun state _ => ⟨_, _, run_isServerAlive state⟩⟩
  have terminating : Proceeds (liftM (Workspace.record .terminate) : Doing Unit) :=
    ⟨untold_lift fun workspace => hushed_record rfl workspace, fun _ _ => ⟨_, _, rfl⟩⟩
  have removing (path : String) : Proceeds (liftM (Machine.removeFile path) : Doing Unit) :=
    ⟨untold_lift (hushed_removeFile path), fun _ _ => ⟨_, _, rfl⟩⟩
  have ending : Proceeds (do Machine.removeFile (← get).1.optionsFile : Doing Unit) :=
    proceeds_get.bind fun _ => removing _
  refine alive.bind fun isAlive => ?_
  dsimp only
  split
  · exact terminating.bind fun _ => ending
  · exact ending

theorem effect_restartServer (ready : Ready state) : Effect state (restartServer.run.run state).2 := by
  let posted : Workspace :=
    { state.2 with events := state.2.events ++ [.command (messageCommand "Restarting ycmd server...")] }
  let reset : Client := { state.1 with isNotified := false }
  have first : restartServer.run.run state = (stopServer >>= fun _ => startServer).run.run (reset, posted) := rfl
  have hushed : Untold (reset, state.2) (reset, posted) := ⟨hushed_record (quiet_messageCommand _) _, rfl, rfl⟩
  have stillReady : Ready (reset, posted) := ⟨ready.interpreter, ready.level, ready.logs⟩
  obtain ⟨_, stopped, isStopped⟩ := proceeds_stopServer.succeeds _ stillReady
  have stopping := proceeds_stopServer.untold.of_run isStopped
  obtain ⟨value, prepared, isPrepared⟩ := proceeds_preparation.succeeds _ (stillReady.of_untold stopping)
  have preparing := proceeds_preparation.untold.of_run isPrepared
  rw [first, run_bind_ok isStopped, run_startServer isPrepared]
  exact .restarted _ _ (Chains.trans hushed (Chains.trans stopping preparing)) (notifies_notifyIfCrashed _)

/-- The report of a file, behind the look at the server. -/
def reporting : Doing Unit := do
  let extra ← addConfData (← addKeywords (← addTagFiles []))
  let request : EventRequest := { name := "FileReadyToParse", extra := .record extra }
  change fun client => { client with parse := some request }
  let sent ← (request.send : Act Workspace EventRequest)
  change fun client => { client with parse := some sent }

theorem fileReady_eq : fileReady = (do
    onOmni Completer.OmniState.learn
    if !(← isServerAlive) then notifyIfCrashed
    reporting) := rfl

theorem undisturbed_reporting : reporting.Keeps Undisturbed := by
  refine (undisturbed_addTagFiles _).bind fun _ => (undisturbed_addKeywords _).bind fun _ => ?_
  refine (undisturbed_addConfData _).bind fun _ => (undisturbed_parse _).bind fun _ => ?_
  exact (undisturbed_lift (calm_sendEvent _)).bind fun _ => undisturbed_parse _

/-- After the function for completions is known, the user is told if need be, and then the file is reported. -/
theorem reported_of_learn (learned : (onOmni Completer.OmniState.learn).run.run state = (.ok (), after)) :
    ∃ told, Notifies after told ∧ Undisturbed told (fileReady.run.run state).2 := by
  rw [fileReady_eq, run_bind_ok learned, run_bind_ok (run_isServerAlive after)]
  dsimp only
  by_cases isAlive : after.2.processEnd = .null
  · rw [isAlive]
    exact ⟨after, .spared (.inr isAlive), undisturbed_reporting after⟩
  · rw [isGone_of_ended isAlive]
    rcases telling : notifyIfCrashed.run.run after with ⟨result, told⟩
    have notifies := notifies_notifyIfCrashed after
    rw [telling] at notifies
    refine ⟨told, notifies, ?_⟩
    cases result with
    | error fault =>
        rw [Bool.not_false, if_pos rfl, run_bind_error telling]
        exact Chains.refl told
    | ok _ =>
        rw [Bool.not_false, if_pos rfl, run_bind_ok telling]
        exact undisturbed_reporting told

theorem effect_fileReady (state : Client × Workspace) : Effect state (fileReady.run.run state).2 := by
  have asking := undisturbed_onOmni Completer.OmniState.calm_learn
  rcases learned : (onOmni Completer.OmniState.learn).run.run state with ⟨result, asked⟩
  cases result with
  | error fault =>
      rw [fileReady_eq, run_bind_error learned]
      exact .untold (asking.of_run learned).untold
  | ok _ =>
      obtain ⟨told, notifies, rest⟩ := reported_of_learn learned
      exact .reported (asking.of_run learned) notifies rest

theorem effect_perform (ready : Ready state) (call : Call) : Effect state (call.perform.run.run state).2 := by
  have calm {act : Doing Unit} (kept : act.Keeps Undisturbed) : Effect state (act.run.run state).2 :=
    .untold (kept state).untold
  have answering {α : Type} {act : Doing α} (kept : act.Keeps Undisturbed) :
      Effect state ((do let _ ← act : Doing Unit).run.run state).2 :=
    calm (kept.bind fun _ => keeps_pure _)
  have reporting (name : String) {extra : Doing Value} (kept : extra.Keeps Undisturbed) :
      Effect state ((reportEvent name extra).run.run state).2 :=
    calm (undisturbed_reportEvent name kept)
  cases call with
  | restartServer => exact effect_restartServer ready
  | complete query isForced => exact answering (undisturbed_completions query isForced)
  | makeCompletion isForced => exact answering (undisturbed_makeCompletion isForced)
  | runCommand arguments target => exact answering (undisturbed_runCommand arguments target)
  | definedSubcommands => exact answering undisturbed_definedSubcommands
  | hasOwnCompleter => exact answering undisturbed_hasOwnCompleter
  | isUsable => exact answering undisturbed_isUsable
  | isEnabled => exact answering undisturbed_isEnabled
  | fileReady => exact effect_fileReady state
  | bufferUnload path => exact reporting _ (keeps_pure _)
  | bufferVisit => exact reporting _ (keeps_get.bind fun _ => keeps_except_bind fun _ => keeps_pure _)
  | insertLeave => exact reporting _ (keeps_pure _)
  | identifierFinished => exact reporting _ (keeps_pure _)
  | cursorMoved => exact calm (undisturbed_onDiagnostics Diagnostics.calm_cursorMoved)
  | leave => exact .untold (proceeds_stopServer.untold state)
  | diagnosticsReady => exact answering undisturbed_diagnosticsReady
  | takeDiagnostics asItems => exact answering (undisturbed_takeDiagnostics asItems)
  | updateDiagnostics => exact calm undisturbed_updateDiagnostics
  | showDetails => exact calm undisturbed_showDetails
  | debugInfo => exact answering undisturbed_debugInfo

end Calls

section Soundness

variable {before after : Client × Workspace}

theorem isNotice_noticeFor (content : String) : (noticeFor content).isNotice = true := by
  unfold noticeFor noticeCommand Event.isNotice
  dsimp only
  rw [Text.startsWith_iff, String.append_assoc, String.toList_append]
  exact List.prefix_append _ _

/-- The state between two calls: the next start has what it needs, and a user who has been told since the last start is
known to have been told. -/
structure Sound (state : Client × Workspace) : Prop where
  ready : Ready state
  notified : ∃ told, Notified told state.2.events ∧ (told = true → state.1.isNotified = true)

theorem Notified.of_hushed {told : Bool} {before after : Workspace} (notified : Notified told before.events)
    (hushed : Hushed before after) : Notified told after.events := by
  obtain ⟨added, same, quiet⟩ := hushed.adds
  rw [same]
  exact notified.append quiet

theorem Sound.of_untold (sound : Sound before) (untold : Untold before after) : Sound after where
  ready := sound.ready.of_untold untold
  notified := by
    obtain ⟨told, notified, isKnown⟩ := sound.notified
    refine ⟨told, Notified.of_hushed notified untold.hushed, fun isTold => ?_⟩
    rw [untold.isNotified]
    exact isKnown isTold

theorem Sound.of_notifies (sound : Sound before) (notifies : Notifies before after) : Sound after := by
  obtain ⟨told, notified, isKnown⟩ := sound.notified
  cases notifies with
  | spared needless => exact sound
  | unread untold ended noLog calm =>
      have ready : Ready (before.1, _) := sound.ready.of_untold ⟨calm.toHushed, rfl, rfl⟩
      have carried := Notified.of_hushed notified calm.toHushed
      exact ⟨⟨ready.interpreter, ready.level, ready.logs⟩, told, carried, fun _ => rfl⟩
  | @shown output errors content untold ended logs log =>
      -- The client has not told the user, so no notice stands behind the last start.
      have untoldYet : told = false := by
        cases told with
        | false => rfl
        | true => exact absurd (isKnown rfl) (by simp [untold])
      subst untoldYet
      refine ⟨⟨sound.ready.interpreter, sound.ready.level, sound.ready.logs⟩, true, ?_, fun _ => rfl⟩
      exact notified.notice (isNotice_noticeFor content)

theorem sound_launched {prepared : Client × Workspace} {told : Bool} (ready : Ready prepared)
    (notified : Notified told prepared.2.events) (arguments : Value) (address : String) :
    Sound (launched prepared arguments address) :=
  ⟨⟨ready.interpreter, ready.level, ready.logs⟩, false, notified.launch arguments, nofun⟩

theorem Sound.of_effect (sound : Sound before) (effect : Effect before after) : Sound after := by
  cases effect with
  | untold untold => exact sound.of_untold untold
  | reported asking notifies rest =>
      exact ((sound.of_untold asking.untold).of_notifies notifies).of_untold rest.untold
  | restarted arguments address untold notifies =>
      -- That the user knows is forgotten before the launch, so only the trace is carried there.
      obtain ⟨told, notified, _⟩ := sound.notified
      have ready : Ready ({ before.1 with isNotified := false }, before.2) :=
        ⟨sound.ready.interpreter, sound.ready.level, sound.ready.logs⟩
      have carried := Notified.of_hushed notified untold.hushed
      exact (sound_launched (ready.of_untold untold) carried arguments address).of_notifies notifies

end Soundness

section Telling

variable {before after : Client × Workspace}

/-- Each notice since then is about a server that had ended by then, and shows what stands in the log before its last
lines. -/
def Tells (before : Workspace) (after : Client × Workspace) : Prop :=
  ∃ added, after.2.events = before.events ++ added ∧
    ∀ event ∈ added, event.isNotice = true →
      before.processEnd ≠ .null ∧
        ∃ output errors content, after.1.logs = some (output, errors) ∧ after.2.contents? errors = some content ∧
          event = noticeFor content

theorem Tells.behind {first second : Workspace} (tells : Tells second after)
    (earlier : ∃ added, second.events = first.events ++ added ∧ ∀ event ∈ added, event.isNotice = false)
    (ended : second.processEnd = first.processEnd) : Tells first after := by
  obtain ⟨more, isAfter, told⟩ := tells
  obtain ⟨added, isSecond, untold⟩ := earlier
  refine ⟨added ++ more, by rw [isAfter, isSecond, List.append_assoc], fun event member isNotice => ?_⟩
  rcases List.mem_append.mp member with inAdded | inMore
  · rw [untold event inAdded] at isNotice
    cases isNotice
  · rw [← ended]
    exact told event inMore isNotice

theorem Tells.behind_hushed {first second : Workspace} (tells : Tells second after) (hushed : Hushed first second) :
    Tells first after := by
  obtain ⟨added, same, quiet⟩ := hushed.adds
  exact tells.behind ⟨added, same, fun event member => Event.not_isNotice_of_isQuiet (quiet event member)⟩ hushed.ended

theorem tells_self (state : Client × Workspace) : Tells state.2 state := ⟨[], (List.append_nil _).symm, nofun⟩

theorem contents?_of_calm {before after : Workspace} (calm : Calm before after) (path : String) :
    after.contents? path = before.contents? path := by
  unfold Workspace.contents? Workspace.file?
  rw [calm.files, calm.places]

theorem Tells.followed {first : Workspace} {told : Client × Workspace} (tells : Tells first told)
    (rest : Undisturbed told after) : Tells first after := by
  obtain ⟨added, isTold, shown⟩ := tells
  obtain ⟨more, isAfter, quiet⟩ := rest.calm.adds
  refine ⟨added ++ more, by rw [isAfter, isTold, List.append_assoc], fun event member isNotice => ?_⟩
  rcases List.mem_append.mp member with inAdded | inMore
  · obtain ⟨ended, output, errors, content, logs, log, isEvent⟩ := shown event inAdded isNotice
    refine ⟨ended, output, errors, content, rest.logs.trans logs, ?_, isEvent⟩
    rw [contents?_of_calm rest.calm, log]
  · rw [Event.not_isNotice_of_isQuiet (quiet event inMore)] at isNotice
    cases isNotice

theorem Notifies.tells (notifies : Notifies before after) : Tells before.2 after := by
  cases notifies with
  | spared _ => exact tells_self _
  | unread _ _ _ calm => exact Tells.behind_hushed (tells_self (_, _)) calm.toHushed
  | shown _ ended logs log => exact ⟨[_], rfl, List.forall_mem_singleton.mpr fun _ => ⟨ended, _, _, _, logs, log, rfl⟩⟩

theorem Notifies.tells_launched {prepared : Client × Workspace} {arguments : Value} {address : String}
    (notifies : Notifies (launched prepared arguments address) after) : Tells prepared.2 after :=
  notifies.tells.behind ⟨[.launch arguments], rfl, List.forall_mem_singleton.mpr rfl⟩ rfl

theorem Effect.tells (effect : Effect before after) : Tells before.2 after := by
  cases effect with
  | untold untold => exact (tells_self after).behind_hushed untold.hushed
  | reported asking notifies rest => exact (notifies.tells.followed rest).behind_hushed asking.calm.toHushed
  | restarted arguments address untold notifies => exact notifies.tells_launched.behind_hushed untold.hushed

end Telling

section Making

variable {options : Value.Fields} {scene workspace : Workspace} {client : Client}

theorem exists_of_run_startServer {before after : Client × Workspace}
    (done : startServer.run.run before = (.ok (), after)) :
    ∃ prepared arguments address, Untold before prepared ∧ Ready prepared ∧
      Notifies (launched prepared arguments address) after := by
  rcases preparing : preparation.run.run before with ⟨result, prepared⟩
  cases result with
  | error fault =>
      rw [startServer_eq, run_bind_error preparing] at done
      cases done
  | ok value =>
      rw [run_startServer preparing] at done
      have notifies :=
        notifies_notifyIfCrashed (launched prepared (.list value.2) ("http://localhost:" ++ toString value.1))
      rw [done] at notifies
      exact ⟨_, _, _, proceeds_preparation.untold.of_run preparing, ready_of_preparation preparing, notifies⟩

theorem exists_of_run_make (made : (make options).run.run scene = (.ok client, workspace)) :
    ∃ initial started, startServer.run.run (initial, scene) = (.ok (), (client, started)) ∧
      Undisturbed (client, started) (client, workspace) := by
  unfold make at made
  obtain ⟨settings, same, read, made⟩ := exists_of_run_bind_ok made
  obtain ⟨_, rfl⟩ := Prod.mk.inj read
  obtain ⟨found, started, isStarted, made⟩ := exists_of_run_bind_ok made
  obtain ⟨_, running, rfl⟩ := exists_of_run_on_ok isStarted
  obtain ⟨_, launched, starting, running⟩ := exists_of_run_bind_ok running
  rw [run_bind_ok (run_get launched)] at running
  obtain ⟨isFound, rfl⟩ := Prod.mk.inj running
  cases isFound
  obtain ⟨isClient, rfl⟩ := Prod.mk.inj made
  cases isClient
  exact ⟨_, launched.2, starting, calm_record rfl launched.2, rfl, rfl, rfl⟩

theorem sound_make (fresh : scene.events = []) (made : (make options).run.run scene = (.ok client, workspace)) :
    Sound (client, workspace) := by
  obtain ⟨initial, started, starting, rest⟩ := exists_of_run_make made
  obtain ⟨prepared, arguments, address, untold, ready, notifies⟩ := exists_of_run_startServer starting
  have notified : Notified false scene.events := by
    rw [fresh]
    exact .start
  have launching := sound_launched ready (Notified.of_hushed notified untold.hushed) arguments address
  exact (launching.of_notifies notifies).of_untold rest.untold

theorem tells_make (made : (make options).run.run scene = (.ok client, workspace)) :
    Tells scene (client, workspace) := by
  obtain ⟨initial, started, starting, rest⟩ := exists_of_run_make made
  obtain ⟨prepared, arguments, address, untold, ready, notifies⟩ := exists_of_run_startServer starting
  exact (notifies.tells_launched.followed rest).behind_hushed untold.hushed

end Making

section Sessions

variable {state : Client × Workspace}

/-- A call and the surroundings that it meets. -/
structure Turn where
  scene : Workspace
  call : Call

/-- The surroundings may have changed since the last call, but not what the program itself remembers. -/
def Turn.start (turn : Turn) (state : Client × Workspace) : Client × Workspace :=
  (state.1, { turn.scene with
    events := state.2.events
    interpreter := state.2.interpreter
    serverAddress := state.2.serverAddress
    serverIsHealthy := state.2.serverIsHealthy })

/-- A call that fails does not end the session. -/
def Turn.after (turn : Turn) (state : Client × Workspace) : Client × Workspace :=
  (turn.call.perform.run.run (turn.start state)).2

def afterTurns (turns : List Turn) (state : Client × Workspace) : Client × Workspace :=
  turns.foldl (fun state turn => turn.after state) state

theorem Sound.start (sound : Sound state) (turn : Turn) : Sound (turn.start state) :=
  ⟨⟨sound.ready.interpreter, sound.ready.level, sound.ready.logs⟩, sound.notified⟩

theorem Sound.effect (sound : Sound state) (turn : Turn) : Effect (turn.start state) (turn.after state) :=
  effect_perform (sound.start turn).ready turn.call

theorem Sound.turn (sound : Sound state) (turn : Turn) : Sound (turn.after state) :=
  (sound.start turn).of_effect (sound.effect turn)

theorem Sound.turns (sound : Sound state) (turns : List Turn) :
    Sound (afterTurns turns state) := by
  induction turns generalizing state with
  | nil => exact sound
  | cons turn turns ih => exact ih (sound.turn turn)

theorem succeeds_learn {function : Value} (known : answerTo state.2 "&omnifunc" = .ok function) :
    ∃ asked, (onOmni Completer.OmniState.learn).run.run state = (.ok (), asked) := by
  have answered := run_evaluate "&omnifunc" state.2
  rw [known] at answered
  have learning : Completer.OmniState.learn.run.run (state.1.omni, state.2) =
      (.ok (), ({ state.1.omni with function }, _)) :=
    (run_bind_ok (run_lift_ok answered state.1.omni)).trans rfl
  have succeeded : ((onOmni Completer.OmniState.learn).run.run state).1 = .ok () := congrArg Prod.fst learning
  exact ⟨_, Prod.ext succeeded rfl⟩

theorem Notifies.exists_notice_iff {before after : Client × Workspace} {output errors content : String}
    (notifies : Notifies before after) (logs : before.1.logs = some (output, errors))
    (log : before.2.contents? errors = some content) :
    ∃ added, after.2.events = before.2.events ++ added ∧
      ((∃ event ∈ added, event.isNotice = true) ↔ before.1.isNotified = false ∧ before.2.processEnd ≠ .null) := by
  cases notifies with
  | spared needless =>
      refine ⟨[], (List.append_nil _).symm, ⟨nofun, fun ⟨untold, ended⟩ => ?_⟩⟩
      rw [untold] at needless
      exact absurd (needless.resolve_left nofun) ended
  | unread _ _ noLog _ =>
      rw [noLog output errors logs] at log
      cases log
  | shown untold ended _ _ =>
      exact ⟨[_], rfl, fun _ => ⟨untold, ended⟩, fun _ => ⟨_, List.mem_singleton_self _, isNotice_noticeFor _⟩⟩

/-- When a file is reported and the log can be read, the user is told exactly if the server has ended and they have not
been told. -/
theorem notice_of_fileReady {scene : Workspace} {function : Value} {output errors content : String}
    (known : answerTo scene "&omnifunc" = .ok function) (logs : state.1.logs = some (output, errors))
    (log : scene.contents? errors = some content) :
    ∃ added, ((⟨scene, .fileReady⟩ : Turn).after state).2.events = state.2.events ++ added ∧
      ((∃ event ∈ added, event.isNotice = true) ↔ state.1.isNotified = false ∧ scene.processEnd ≠ .null) := by
  let start := (⟨scene, .fileReady⟩ : Turn).start state
  have isKnown : answerTo start.2 "&omnifunc" = .ok function := known
  obtain ⟨asked, learned⟩ := succeeds_learn isKnown
  have asking := (undisturbed_onOmni Completer.OmniState.calm_learn).of_run learned
  obtain ⟨told, notifies, rest⟩ := reported_of_learn learned
  obtain ⟨first, isAsked, quiet⟩ := asking.calm.adds
  obtain ⟨last, isAfter, alsoQuiet⟩ := rest.calm.adds
  have stillLog : asked.2.contents? errors = some content := (contents?_of_calm asking.calm errors).trans log
  obtain ⟨added, isTold, isNotice⟩ := notifies.exists_notice_iff (asking.logs.trans logs) stillLog
  rw [asking.isNotified, asking.calm.ended] at isNotice
  refine ⟨first ++ (added ++ last), ?_, Iff.trans ⟨?_, ?_⟩ isNotice⟩
  · change (fileReady.run.run start).2.2.events = start.2.events ++ _
    rw [isAfter, isTold, isAsked, List.append_assoc, List.append_assoc]
  · rintro ⟨event, member, isShown⟩
    have notQuiet : event.isQuiet ≠ true := fun isQuiet => by
      rw [Event.not_isNotice_of_isQuiet isQuiet] at isShown
      cases isShown
    rcases List.mem_append.mp member with early | later
    · exact absurd (quiet event early) notQuiet
    · exact ⟨event, (List.mem_append.mp later).resolve_right fun late => notQuiet (alsoQuiet event late), isShown⟩
  · rintro ⟨event, member, isShown⟩
    exact ⟨event, List.mem_append_right _ (List.mem_append_left _ member), isShown⟩

end Sessions

section Shown

theorem noticePart_shows_end_iff (content : String) :
    String.join (noticePart (Text.lines content)) =
        String.join ((Text.lines content).drop ((Text.lines content).length - noticeLines)) ↔
      Text.lines content = [] ∨ (Text.lines content).length = 2 * noticeLines ∧
        (Text.lines content).take noticeLines = (Text.lines content).drop noticeLines := by
  rw [noticePart, Text.join_take_eq_join_drop_iff]
  generalize Text.lines content = lines
  constructor
  · intro same
    have lengths := congrArg List.length same
    rw [List.length_take, List.length_drop] at lengths
    by_cases short : lines.length ≤ noticeLines
    · rw [Nat.sub_eq_zero_of_le short] at same
      exact .inl same.symm
    · have length : lines.length = 2 * noticeLines := by omega
      rw [length] at same
      exact .inr ⟨length, same⟩
  · rintro (rfl | ⟨length, same⟩)
    · rfl
    · rw [length]
      exact same

/-- After each start of the server the user is told at most once that it is gone, and only when it is; but the text
behind the heading is the log without its last lines, which is the end of the log for an empty log or one of twice as
many lines that says everything twice. -/
theorem crash_notice_once_without_last_lines {options : Value.Fields} {scene workspace : Workspace} {client : Client}
    (fresh : scene.events = []) (made : (make options).run.run scene = (.ok client, workspace)) (turns : List Turn) :
    let last := afterTurns turns (client, workspace)
    (∀ segment, segment <:+: last.2.events → (∀ event ∈ segment, event.isLaunch = false) →
      segment.countP Event.isNotice ≤ 1) ∧
    Tells scene (client, workspace) ∧
    (∀ turn : Turn, Tells (turn.start last).2 (turn.after last)) ∧
    (∀ scene function output errors content, answerTo scene "&omnifunc" = .ok function →
      last.1.logs = some (output, errors) → scene.contents? errors = some content →
      ∃ added, ((⟨scene, .fileReady⟩ : Turn).after last).2.events = last.2.events ++ added ∧
        ((∃ event ∈ added, event.isNotice = true) ↔ last.1.isNotified = false ∧ scene.processEnd ≠ .null)) ∧
    ∀ content,
      String.join (noticePart (Text.lines content)) =
          String.join ((Text.lines content).drop ((Text.lines content).length - noticeLines)) ↔
        Text.lines content = [] ∨ (Text.lines content).length = 2 * noticeLines ∧
          (Text.lines content).take noticeLines = (Text.lines content).drop noticeLines := by
  intro last
  have sound := (sound_make fresh made).turns turns
  refine ⟨?_, tells_make made, fun turn => (sound.effect turn).tells, ?_, noticePart_shows_end_iff⟩
  · intro segment within noLaunch
    obtain ⟨told, notified, _⟩ := sound.notified
    exact notified.countP_infix_le_one within noLaunch
  · intro scene function output errors content known logs log
    exact notice_of_fileReady known logs log

/-- Options with which the server writes logs of its own. -/
def loggingOptions : Value.Fields :=
  [("min_num_of_chars_for_completion", .int 2), ("auto_trigger", .int 0), ("server_log_level", .text "info"),
    ("server_use_vim_stdout", .int 0), ("server_keep_logfiles", .int 0)]

/-- A server that ends as soon as it is launched, and leaves one line in its log. -/
def crashing : Workspace where
  files :=
    { files := [("/tmp/ycm_temp/server_1_stderr.log", ⟨.text "no such module\n", 0⟩)]
      folders := ["/", "/tmp", "/tmp/ycm_temp"] }
  editor := { answers := [("g:ycm_path_to_python_interpreter", .ok (.text "/usr/bin/python2"))] }
  freePort := 1
  processEnd := .int 1

/-- The event is a notice of this text. -/
def shows (text : String) : Event → Bool
  | .command command => command == noticeCommand text
  | _ => false

theorem run_crashing :
    let ended := (make loggingOptions).run.run crashing
    ended.1.toOption.isSome = true ∧ ended.2.events.countP Event.isNotice = 1 ∧
      ended.2.events.any (shows noticeHeading) = true ∧
      ended.2.contents? "/tmp/ycm_temp/server_1_stderr.log" = some "no such module\n" := by
  decide +kernel

theorem crash_notice_once_without_last_lines_crashing :
    crashing.events = [] ∧
      ∃ client workspace, (make loggingOptions).run.run crashing = (.ok client, workspace) ∧
        workspace.events.countP Event.isNotice = 1 ∧ Tells crashing (client, workspace) ∧
        let last := afterTurns [⟨crashing, .restartServer⟩] (client, workspace)
        ∀ segment, segment <:+: last.2.events → (∀ event ∈ segment, event.isLaunch = false) →
          segment.countP Event.isNotice ≤ 1 := by
  refine ⟨rfl, ?_⟩
  obtain ⟨succeeds, once, -⟩ := run_crashing
  rcases made : (make loggingOptions).run.run crashing with ⟨result, workspace⟩
  rw [made] at succeeds once
  cases result with
  | error fault => cases succeeds
  | ok client =>
      obtain ⟨between, tells, -⟩ := crash_notice_once_without_last_lines rfl made [⟨crashing, .restartServer⟩]
      exact ⟨client, workspace, rfl, once, tells, between⟩

/-- A log of one line is left out of the notice. -/
theorem crash_notice_hides_short_log :
    let after := ((make loggingOptions).run.run crashing).2
    after.contents? "/tmp/ycm_temp/server_1_stderr.log" = some "no such module\n" ∧
      after.events.countP Event.isNotice = 1 ∧ after.events.any (shows noticeHeading) = true ∧
      String.join ((Text.lines "no such module\n").drop ((Text.lines "no such module\n").length - noticeLines)) =
        "no such module\n" := by
  obtain ⟨-, once, isShown, log⟩ := run_crashing
  exact ⟨log, once, isShown, by decide +kernel⟩

end Shown

end Client

end Typeahead

import Typeahead.Proofs.EditorFrames
import Typeahead.Proofs.KeptCompletions
import Typeahead.Proofs.PreparedFlags
import Typeahead.Session.Client

namespace Typeahead

/-! What the calls of a client leave alone. Most of them start no server, show no notice of several lines, and change
neither files nor what the client knows about its server: they ask the editor, talk to the server, and show messages
and marks. -/

section Trace

/-- A server is started. -/
def Event.isLaunch : Event → Bool
  | .launch _ => true
  | _ => false

/-- A notice of several lines is shown. -/
def Event.isNotice : Event → Bool
  | .command text => Text.startsWith text "echohl WarningMsg | echo '"
  | _ => false

def Event.isQuiet (event : Event) : Bool := !event.isLaunch && !event.isNotice

/-- Texts that differ before one of them ends go apart whatever comes after that. -/
theorem not_startsWith_append {start opening : String} (rest : String)
    (differ : (start.toList.zip opening.toList).any (fun pair => pair.1 != pair.2) = true) :
    Text.startsWith (start ++ rest) opening = false := by
  rw [← Bool.not_eq_true, Text.startsWith_iff, String.toList_append]
  intro ⟨behind, same⟩
  obtain ⟨⟨first, second⟩, member, differ⟩ := List.any_eq_true.mp differ
  obtain ⟨index, found⟩ := List.mem_iff_getElem?.mp member
  obtain ⟨inStart, inOpening⟩ := List.getElem?_zip_eq_some.mp found
  have left : (start.toList ++ rest.toList)[index]? = some first := by
    rw [List.getElem?_append_left (List.getElem?_eq_some_iff.mp inStart).1, inStart]
  have right : (opening.toList ++ behind)[index]? = some second := by
    rw [List.getElem?_append_left (List.getElem?_eq_some_iff.mp inOpening).1, inOpening]
  rw [← same, right, Option.some.injEq] at left
  simp [left] at differ

theorem quiet_command_append {start : String} (rest : String)
    (differ : (start.toList.zip "echohl WarningMsg | echo '".toList).any (fun pair => pair.1 != pair.2) = true) :
    (Event.command (start ++ rest)).isQuiet = true := by
  simp [Event.isQuiet, Event.isLaunch, Event.isNotice, not_startsWith_append rest differ]

end Trace

section Relations

/-- Nothing is started and no notice is shown, and an interpreter that is known stays so. -/
structure Hushed (before after : Workspace) : Prop where
  adds : ∃ added, after.events = before.events ++ added ∧ ∀ event ∈ added, event.isQuiet = true
  ended : after.processEnd = before.processEnd
  interpreter : before.interpreter.isSome → after.interpreter = before.interpreter

theorem Hushed.refl (workspace : Workspace) : Hushed workspace workspace where
  adds := ⟨[], by simp, nofun⟩
  ended := rfl
  interpreter _ := rfl

theorem Hushed.trans {first second third : Workspace} (before : Hushed first second) (after : Hushed second third) :
    Hushed first third where
  adds := by
    obtain ⟨added, isSecond, quiet⟩ := before.adds
    obtain ⟨more, isThird, alsoQuiet⟩ := after.adds
    refine ⟨added ++ more, by rw [isThird, isSecond, List.append_assoc], fun event member => ?_⟩
    exact (List.mem_append.mp member).elim (quiet event) (alsoQuiet event)
  ended := after.ended.trans before.ended
  interpreter known := by
    have same := before.interpreter known
    rw [← same] at known
    exact (after.interpreter known).trans same

theorem hushed_record {event : Event} (quiet : event.isQuiet = true) (workspace : Workspace) :
    Hushed workspace { workspace with events := workspace.events ++ [event] } where
  adds := ⟨[event], rfl, by simpa using quiet⟩
  ended := rfl
  interpreter _ := rfl

instance : Editor.AllowsAsking Hushed where
  refl := Hushed.refl
  trans := Hushed.trans
  asked workspace _ := hushed_record rfl workspace

/-- Besides, the files stay as they are. -/
structure Calm (before after : Workspace) : Prop extends Hushed before after where
  files : after.files = before.files
  places : after.places = before.places

theorem calm_record {event : Event} (quiet : event.isQuiet = true) (workspace : Workspace) :
    Calm workspace { workspace with events := workspace.events ++ [event] } :=
  ⟨hushed_record quiet workspace, rfl, rfl⟩

instance : Editor.AllowsAsking Calm where
  refl workspace := ⟨.refl workspace, rfl, rfl⟩
  trans first second :=
    ⟨first.toHushed.trans second.toHushed, second.files.trans first.files, second.places.trans first.places⟩
  asked workspace _ := calm_record rfl workspace

variable {σ α : Type}

/-- The workspace beside a state goes the way that the relation says. -/
def Beside (relation : Workspace → Workspace → Prop) (before after : σ × Workspace) : Prop := relation before.2 after.2

instance {relation : Workspace → Workspace → Prop} [chains : Act.Chains relation] :
    Act.Chains fun before after : σ × Workspace => Beside relation before after where
  refl state := chains.refl state.2
  trans first second := chains.trans first second

theorem keeps_beside {relation : Workspace → Workspace → Prop} {act : Act Workspace α} (kept : act.Keeps relation) :
    (liftM act : Act (σ × Workspace) α).Keeps (Beside relation) :=
  kept.on fun _ _ later => later

theorem keeps_workspaceOption {relation : Workspace → Workspace → Prop} [Act.Chains relation] (key : String) :
    (Workspace.option key).Keeps relation := by
  refine Act.keeps_get.bind fun workspace => ?_
  cases workspace.options.lookup key with
  | some value => exact Act.keeps_pure value
  | none => exact Act.keeps_throw _

end Relations

namespace Editor

open Act

theorem calm_command {text : String} (quiet : (Event.command text).isQuiet = true) : (command text).Keeps Calm :=
  fun workspace => calm_record quiet workspace

theorem quiet_messageCommand (text : String) : (Event.command (messageCommand text)).isQuiet = true := by
  unfold messageCommand
  rw [String.append_assoc]
  exact quiet_command_append _ (by decide +kernel)

theorem calm_postMessage (text : String) : (postMessage text).Keeps Calm := calm_command (quiet_messageCommand text)

theorem calm_showText (keeps : Bool) (text : String) : (showText keeps text).Keeps Calm := by
  refine keeps_forM (fun line => calm_command ?_) _
  have opening : (if keeps then "echom" else "echo") ++ " '" = if keeps then "echom '" else "echo '" := by
    cases keeps <;> decide
  rw [lineCommand, String.append_assoc, opening]
  cases keeps <;> exact quiet_command_append _ (by decide +kernel)

theorem calm_showWithinWidth (text : String) : (showWithinWidth text).Keeps Calm := by
  refine (keeps_evaluateInt _).bind fun width => keeps_except_bind fun length => ?_
  refine (keeps_evaluateInt _).bind fun ruler => (keeps_evaluateInt _).bind fun pending => ?_
  refine (calm_command (by decide)).bind fun _ => (calm_showText _ _).bind fun _ => ?_
  exact (calm_command (quiet_command_append _ (by decide +kernel))).bind fun _ =>
    calm_command (quiet_command_append _ (by decide +kernel))

theorem calm_highlightKeywords : highlightKeywords.Keeps Calm := by
  refine (calm_command (by decide)).bind fun _ => (calm_command (by decide)).bind fun _ => ?_
  refine (calm_command (by decide)).bind fun _ => (keeps_evaluate _).bind fun output => ?_
  exact keeps_except_bind fun _ => keeps_except_bind fun _ => keeps_pure _

theorem calm_unplaceSigns (buffer : Int) : (unplaceSigns buffer).Keeps Calm := by
  unfold unplaceSigns
  split
  · exact calm_command (quiet_command_append _ (by decide +kernel))
  · exact keeps_pure _

theorem calm_placeSign (id : Nat) (line buffer : Int) (isError : Bool) :
    (command (SignCommand.place id line buffer isError).text).Keeps Calm := by
  change (command (SignCommand.placeText (toString id) (toString line) (toString buffer) isError)).Keeps Calm
  refine calm_command ?_
  unfold SignCommand.placeText
  iterate 6 rw [String.append_assoc]
  exact quiet_command_append _ (by decide +kernel)

theorem calm_setCursor (line column : Value) : (setCursor line column).Keeps Calm :=
  fun _ => ⟨⟨⟨[], (List.append_nil _).symm, nofun⟩, rfl, fun _ => rfl⟩, rfl, rfl⟩

theorem calm_jump (path line column : Value) : (jump path line column).Keeps Calm := by
  have arriving : (do
      setCursor line (← column.minus (.int 1))
      command "normal! zz" : Act Workspace Unit).Keeps Calm :=
    keeps_except_bind fun _ => (calm_setCursor _ _).bind fun _ => calm_command (by decide +kernel)
  have opening (start : String) :
      (command ("keepjumps " ++ start ++ " " ++ path.display)).Keeps Calm := by
    refine calm_command ?_
    rw [String.append_assoc, String.append_assoc]
    exact quiet_command_append _ (by decide +kernel)
  unfold jump
  refine (calm_command (by decide +kernel)).bind fun _ => keeps_currentPath.bind fun _ => ?_
  dsimp only
  split
  · refine (keeps_workspaceOption _).bind fun preference => keeps_except_bind fun preferred => ?_
    split
    · refine keeps_buffer.bind fun current => (keeps_isUsable current).bind fun isUsable => ?_
      exact (keeps_pure _).bind fun _ => (opening _).bind fun _ => arriving
    · exact (keeps_pure _).bind fun _ => (opening _).bind fun _ => arriving
  · exact arriving

end Editor

namespace Retry

open Act

variable {σ α : Type} {relation : Workspace → Workspace → Prop} [Chains relation]

theorem keeps_attempts {policy : Retry} {act : Act (σ × Workspace) α} (isSilent : policy.reports = false)
    (sleeps : ∀ seconds, (sleep seconds).Keeps relation) (kept : act.Keeps (Beside relation)) (tries : Nat)
    (delay : Value) : (policy.attempts act tries delay).Keeps (Beside relation) := by
  induction tries generalizing delay with
  | zero => exact keeps_pure none
  | succ remaining ih =>
      unfold attempts
      refine (kept.bind fun _ => keeps_pure _).tryCatch fun fault => ?_
      have again : (do
          liftM (sleep delay)
          policy.attempts act remaining (← delay.times policy.growth) :
          Act (σ × Workspace) (Option α)).Keeps (Beside relation) :=
        (keeps_beside (sleeps delay)).bind fun _ => keeps_except_bind fun later => ih later
      rw [isSilent]
      dsimp only
      split
      · exact (keeps_throw _).bind fun _ => again
      · exact again

end Retry

namespace Client

open Act Editor

section Exchange

theorem calm_takeReply (address : String) : (takeReply address).Keeps Calm := by
  intro workspace
  unfold takeReply
  rw [run_bind_ok (run_get workspace)]
  dsimp only
  split
  · exact ⟨⟨⟨[], (List.append_nil _).symm, nofun⟩, rfl, fun _ => rfl⟩, rfl, rfl⟩
  · exact Chains.refl workspace
  · exact Chains.refl workspace

theorem calm_receive (address : String) : (receive address).Keeps Calm := by
  refine (calm_takeReply address).bind fun reply => ?_
  cases reply.failure with
  | some text => exact keeps_throw _
  | none => exact keeps_pure reply

theorem calm_addressOf (handler : String) : (addressOf handler).Keeps Calm :=
  keeps_get.bind fun _ => keeps_except _

theorem calm_message (delivery : Delivery) (method address : String) (body timeout : Value) :
    (Workspace.record (.message delivery method address body timeout)).Keeps Calm :=
  fun workspace => calm_record rfl workspace

theorem calm_sendNow (method : Method) (handler : String) (body : Value) : (sendNow method handler body).Keeps Calm :=
  (calm_addressOf handler).bind fun _ => (calm_message _ _ _ _ _).bind fun _ => calm_receive _

theorem calm_isHealthy : isHealthy.Keeps Calm := by
  have noting (value : Value) : (modify fun workspace => { workspace with serverIsHealthy := value } :
      Act Workspace Unit).Keeps Calm :=
    fun _ => ⟨⟨⟨[], (List.append_nil _).symm, nofun⟩, rfl, fun _ => rfl⟩, rfl, rfl⟩
  have asking : isHealthy.ask.Keeps Calm :=
    (calm_sendNow _ _ _).bind fun _ => keeps_except_bind fun _ => (noting _).bind fun _ => keeps_pure _
  refine keeps_get.bind fun workspace => ?_
  split
  · exact keeps_pure _
  · exact asking.tryCatch fun _ => keeps_pure _

theorem calm_settle {act : Act Workspace Reply} (calm : act.Keeps Calm) : (settle act).Keeps Calm :=
  (calm.bind fun _ => keeps_pure _).tryCatch fun _ => keeps_pure _

theorem calm_sendPatiently (method : Method) (handler : String) (body : Value) :
    (sendPatiently method handler body).Keeps Calm := by
  have sleeping (seconds : Value) : (Retry.sleep seconds).Keeps Calm := fun workspace => calm_record rfl workspace
  have trying : (Act.alone (patience.run (sendNow method handler body : Act (Unit × Workspace) Reply))).Keeps Calm :=
    (Retry.keeps_attempts rfl sleeping (keeps_beside (calm_sendNow method handler body)) _ _).on fun _ _ later => later
  refine calm_settle (trying.bind fun reply => ?_)
  cases reply <;> exact keeps_pure _

theorem calm_enqueue (method : Method) (handler : String) (body timeout : Value) :
    (enqueue method handler body timeout).Keeps Calm := by
  refine (calm_addressOf handler).bind fun address => keeps_get.bind fun workspace => ?_
  split
  · exact (calm_message _ _ _ _ _).bind fun _ => keeps_pure _
  · exact (calm_message _ _ _ _ _).bind fun _ => calm_settle (calm_receive address)

theorem calm_send (method : Method) (handler : String) (body timeout : Value) :
    (send method handler body timeout).Keeps Calm := by
  refine calm_isHealthy.bind fun isHealthy => ?_
  split
  · exact calm_enqueue _ _ _ _
  · exact calm_sendPatiently _ _ _

theorem calm_postData (data : Value) (handler : String) : (postData data handler).Keeps Calm :=
  (calm_send _ _ _ _).bind fun _ => keeps_except _

end Exchange

section Requests

theorem calm_makeRequest (extra : Value) : (CompletionRequest.make extra).Keeps Calm :=
  (keeps_atCursor _).bind fun _ => (keeps_requestData _ _ _).bind fun _ => keeps_except_bind fun _ => keeps_pure _

theorem calm_sendRequest (request : CompletionRequest) (query : Value) : (request.send query).Keeps Calm :=
  (calm_send _ _ _ _).bind fun _ => keeps_pure _

theorem calm_completionResponse (request : CompletionRequest) : request.response.Keeps Calm := by
  refine keeps_except_bind fun exchange => ?_
  dsimp only
  split
  · exact keeps_pure _
  · exact (calm_postMessage _).bind fun _ => keeps_pure _

theorem calm_sendEvent (request : EventRequest) : request.send.Keeps Calm :=
  (keeps_requestData _ _ _).bind fun _ => keeps_except_bind fun _ => (calm_send _ _ _ _).bind fun _ => keeps_pure _

theorem calm_settleConf (path question : String) : (EventRequest.settleConf path question).Keeps Calm :=
  (keeps_confirm _).bind fun _ => (calm_postData _ _).bind fun _ => keeps_pure _

theorem calm_receiveEvent (exchange : Exchange) : (EventRequest.receive exchange).Keeps Calm := by
  unfold EventRequest.receive
  split
  · exact keeps_pure _
  · exact (calm_settleConf _ _).bind fun _ => keeps_pure _
  · exact keeps_throw _

theorem calm_eventResponse (request : EventRequest) : request.response.Keeps Calm := by
  unfold EventRequest.response
  split
  · exact keeps_pure _
  · refine keeps_except_bind fun exchange => ?_
    split
    · exact keeps_pure _
    · refine ((calm_receiveEvent exchange).tryCatch fun fault => ?_).bind fun _ => keeps_pure _
      exact (calm_postMessage _).bind fun _ => keeps_pure _

theorem calm_report (name : String) (extra : Value) : (report name extra).Keeps Calm :=
  (calm_sendEvent _).bind fun _ => keeps_pure _

theorem calm_sendCommand (request : CommandRequest) : request.send.Keeps Calm := by
  refine (keeps_requestData _ _ _).bind fun data => ?_
  refine ((calm_postData _ _).bind fun _ => keeps_pure _).tryCatch fun fault => ?_
  split
  · exact keeps_throw _
  · exact (calm_postMessage _).bind fun _ => keeps_pure _

theorem calm_follow (request : CommandRequest) : request.follow.Keeps Calm := by
  unfold CommandRequest.follow
  split
  · exact keeps_pure _
  · split
    · refine keeps_except_bind fun items => (keeps_evaluate _).bind fun _ => ?_
      exact (keeps_evaluate _).bind fun _ => keeps_pure _
    · iterate 5 refine keeps_except_bind fun _ => ?_
      exact calm_jump _ _ _

theorem calm_performCommand (arguments target : Value) : (CommandRequest.perform arguments target).Keeps Calm :=
  keeps_except_bind fun _ => (calm_sendCommand _).bind fun request => (calm_follow request).bind fun _ => keeps_pure _

theorem calm_askHere (handler : String) : (askHere handler).Keeps Calm :=
  (keeps_requestData _ _ _).bind fun _ => calm_postData _ _

end Requests

namespace Diagnostics

theorem calm_placeSigns (buffer line : Int) (next : Nat) (diagnostics : List Value) :
    (placeSigns buffer line next diagnostics).Keeps Calm := by
  refine keeps_foldlM (fun next diagnostic => keeps_except_bind fun isError => ?_) diagnostics next
  exact (calm_placeSign next line buffer isError).bind fun _ => keeps_pure _

theorem calm_renewSigns (buffer : Int) (lines : Lines) (next : Nat) : (renewSigns buffer lines next).Keeps Calm := by
  refine (keeps_isVisible buffer).bind fun isVisible => ?_
  split
  · exact keeps_pure _
  · exact (calm_unplaceSigns buffer).bind fun _ => keeps_foldlM (fun _ _ => calm_placeSigns _ _ _ _) lines next

theorem calm_updateSigns (groups : Groups) (next : Nat) : (updateSigns groups next).Keeps Calm :=
  keeps_buffer.bind fun _ => (calm_unplaceSigns _).bind fun _ =>
    keeps_foldlM (fun _ _ => calm_renewSigns _ _ _) groups next

theorem calm_option (key : String) : (option key).Keeps (Beside Calm) := by
  refine keeps_get.bind fun state => ?_
  cases state.1.options.lookup key with
  | some value => exact keeps_pure value
  | none => exact keeps_throw _

theorem calm_change (alter : Diagnostics → Diagnostics) : (change alter).Keeps (Beside Calm) :=
  fun state => Chains.refl state.2

theorem calm_updateHighlights : updateHighlights.Keeps (Beside Calm) := by
  refine (keeps_beside keeps_clearHighlights).bind fun _ => (keeps_beside keeps_buffer).bind fun _ => ?_
  refine (calm_change _).bind fun _ => keeps_get.bind fun state => ?_
  refine (keeps_forIn (fun entry _ => ?_) _ _).bind fun _ => keeps_pure _
  refine (keeps_forIn (fun diagnostic _ => ?_) _ _).bind fun _ => keeps_pure _
  exact (keeps_beside (keeps_highlightDiagnostic diagnostic)).bind fun _ => keeps_pure _

theorem calm_update (diagnostics : Value) : (update diagnostics).Keeps (Beside Calm) := by
  have listing : (do
      if (← option "always_populate_location_list").isPresent then
        setLocationList (← (locationItems diagnostics : Act Workspace Value)) : Doing Unit).Keeps (Beside Calm) := by
    refine (calm_option _).bind fun wanted => ?_
    split
    · exact (keeps_beside (keeps_locationItems _)).bind fun _ => keeps_beside (keeps_setLocationList _)
    · exact keeps_pure _
  have highlighting : (do
      if (← option "enable_diagnostic_highlighting").isPresent then updateHighlights
      if (← option "always_populate_location_list").isPresent then
        setLocationList (← (locationItems diagnostics : Act Workspace Value)) : Doing Unit).Keeps (Beside Calm) := by
    refine (calm_option _).bind fun wanted => ?_
    dsimp only
    split
    · exact calm_updateHighlights.bind fun _ => listing
    · exact listing
  refine (keeps_beside (keeps_grouped diagnostics)).bind fun groups => (calm_change _).bind fun _ => ?_
  refine (calm_option _).bind fun wanted => ?_
  dsimp only
  split
  · refine keeps_get.bind fun state => (keeps_beside (calm_updateSigns groups state.1.nextSign)).bind fun _ => ?_
    exact (calm_change _).bind fun _ => highlighting
  · exact highlighting

theorem calm_showLine (line : Int) : (showLine line).Keeps (Beside Calm) := by
  refine (keeps_beside keeps_buffer).bind fun _ => (calm_change _).bind fun _ => keeps_get.bind fun state => ?_
  dsimp only
  split
  · refine keeps_get.bind fun state => ?_
    split
    · exact (keeps_beside (calm_showText _ _)).bind fun _ => calm_change _
    · exact keeps_pure _
  · refine keeps_except_bind fun text => (keeps_beside (calm_showWithinWidth _)).bind fun _ => calm_change _

theorem calm_cursorMoved : cursorMoved.Keeps (Beside Calm) := by
  refine (keeps_beside keeps_lineAndColumn).bind fun _ => keeps_except_bind fun line => keeps_get.bind fun state => ?_
  split
  · exact keeps_pure _
  · refine (calm_change _).bind fun _ => (calm_option _).bind fun wanted => ?_
    split
    · exact keeps_except_bind fun _ => calm_showLine _
    · exact keeps_pure _

end Diagnostics

end Client

namespace Completer

open Act Editor

theorem keeps_changeCore {σ : Type} {relation : Workspace → Workspace → Prop} [Chains relation] {completer : Completer σ}
    (alter : Core → Core) : (completer.changeCore alter).Keeps (Beside relation) :=
  fun state => Chains.refl state.2

namespace OmniState

theorem calm_ask (function request : Value) : (ask function request).Keeps Calm := by
  refine keeps_except_bind fun _ => keeps_except_bind fun _ => (keeps_evaluateInt _).bind fun start => ?_
  split
  · exact keeps_pure _
  · refine keeps_except_bind fun _ => keeps_except_bind fun _ => (keeps_evaluate _).bind fun _ => ?_
    exact keeps_except_bind fun _ => keeps_pure _

theorem calm_gather (request : Value) : (gather request).Keeps (Beside Calm) := by
  refine keeps_get.bind fun state => ?_
  dsimp only
  split
  · exact keeps_pure _
  · refine (keeps_beside (calm_ask _ _)).tryCatch fun fault => ?_
    split
    · exact (keeps_throw _).bind fun _ => (keeps_beside (calm_postMessage _)).bind fun _ => keeps_pure _
    · exact (keeps_beside (calm_postMessage _)).bind fun _ => keeps_pure _

theorem calm_applies (request : Value) : (applies request).Keeps (Beside Calm) := by
  refine keeps_get.bind fun state => ?_
  split
  · exact keeps_pure _
  · exact keeps_get.bind fun _ => keeps_except _

theorem calm_usesCache : usesCache.Keeps (Beside Calm) :=
  keeps_get.bind fun _ => keeps_except_bind fun _ => keeps_pure _

theorem calm_shouldUse (request : Value) : (shouldUse request).Keeps (Beside Calm) := by
  have decided (request : Value) : (do
      if ← usesCache then keeping.shouldUse request else applies request : Doing Bool).Keeps (Beside Calm) := by
    refine calm_usesCache.bind fun keeps => ?_
    split
    · exact keeps_shouldUse (fun _ => keeps_changeCore _) rfl calm_applies request
    · exact calm_applies request
  refine keeps_get.bind fun state => ?_
  split
  · exact keeps_pure _
  · dsimp only
    exact keeps_choice_bind (keeps_pure _) (keeps_beside keeps_placeData) decided

theorem calm_compute (request : Value) : (compute request).Keeps (Beside Calm) := by
  refine calm_usesCache.bind fun keeps => ?_
  split
  · exact keeps_compute (fun _ => keeps_changeCore _) rfl calm_shouldUse calm_gather request
  · refine (calm_applies request).bind fun isFor => ?_
    split
    · exact calm_gather request
    · exact keeps_pure _

theorem calm_learn : learn.Keeps (Beside Calm) :=
  (keeps_beside (keeps_evaluate _)).bind fun _ state => Chains.refl state.2

end OmniState

end Completer

namespace Client

open Act Editor

/-- The client keeps to what it knows about its server. -/
structure Undisturbed (before after : Client × Workspace) : Prop where
  calm : Calm before.2 after.2
  isNotified : after.1.isNotified = before.1.isNotified
  logs : after.1.logs = before.1.logs
  options : after.1.options = before.1.options

instance : Chains Undisturbed where
  refl state := ⟨Chains.refl state.2, rfl, rfl, rfl⟩
  trans first second :=
    ⟨Chains.trans first.calm second.calm, second.isNotified.trans first.isNotified, second.logs.trans first.logs,
      second.options.trans first.options⟩

section Parts

variable {α : Type}

theorem undisturbed_lift {act : Act Workspace α} (calm : act.Keeps Calm) : (liftM act : Doing α).Keeps Undisturbed :=
  calm.on fun _ _ later => ⟨later, rfl, rfl, rfl⟩

theorem undisturbed_onDiagnostics {act : Diagnostics.Doing α} (calm : act.Keeps (Beside Calm)) :
    (onDiagnostics act).Keeps Undisturbed :=
  calm.on fun _ _ later => ⟨later, rfl, rfl, rfl⟩

theorem undisturbed_onOmni {act : Completer.OmniState.Doing α} (calm : act.Keeps (Beside Calm)) :
    (onOmni act).Keeps Undisturbed :=
  calm.on fun _ _ later => ⟨later, rfl, rfl, rfl⟩

theorem undisturbed_option (key : String) : (option key).Keeps Undisturbed := by
  refine keeps_get.bind fun state => ?_
  cases state.1.options.lookup key with
  | some value => exact keeps_pure value
  | none => exact keeps_throw _

theorem undisturbed_isServerAlive : isServerAlive.Keeps Undisturbed := keeps_get.bind fun _ => keeps_pure _

theorem undisturbed_completion (completion : Option (CompletionRequest ⊕ OmniRequest)) :
    (change fun client => { client with completion }).Keeps Undisturbed :=
  fun state => ⟨Chains.refl state.2, rfl, rfl, rfl⟩

theorem undisturbed_parse (parse : Option EventRequest) :
    (change fun client => { client with parse }).Keeps Undisturbed :=
  fun state => ⟨Chains.refl state.2, rfl, rfl, rfl⟩

end Parts

section Completions

theorem undisturbed_hasOwnCompleter : hasOwnCompleter.Keeps Undisturbed :=
  (undisturbed_lift keeps_filetypes).bind fun _ => keeps_get.bind fun _ => keeps_pure _

theorem undisturbed_isEnabled : isEnabled.Keeps Undisturbed :=
  (undisturbed_lift keeps_filetypes).bind fun _ => (undisturbed_option _).bind fun _ =>
    keeps_except_bind fun _ => keeps_pure _

theorem undisturbed_isUsable : isUsable.Keeps Undisturbed := by
  refine undisturbed_isEnabled.bind fun isEnabled => ?_
  split
  · exact keeps_pure _
  · exact undisturbed_hasOwnCompleter

theorem undisturbed_addConfData (extra : Value.Fields) : (addConfData extra).Keeps Undisturbed := by
  refine (undisturbed_option _).bind fun expressions => ?_
  split
  · exact keeps_pure _
  · refine keeps_except_bind fun names => (keeps_forIn (fun name data => ?_) names _).bind fun _ => keeps_pure _
    refine keeps_except_bind fun _ => (undisturbed_lift (keeps_evaluateNumber _)).bind fun _ => keeps_pure _

theorem undisturbed_usesOmni : makeCompletion.usesOmni.Keeps Undisturbed := by
  refine undisturbed_hasOwnCompleter.bind fun hasOwn => ?_
  split
  · exact keeps_pure _
  · refine undisturbed_isEnabled.bind fun isEnabled => ?_
    split
    · exact keeps_pure _
    · exact undisturbed_onOmni (Completer.OmniState.calm_shouldUse _)

theorem undisturbed_makeCompletion (isForced : Bool) : (makeCompletion isForced).Keeps Undisturbed := by
  have keeping (completion : Option (CompletionRequest ⊕ OmniRequest)) : (do
      change fun client => { client with completion }
      return completion : Doing (Option (CompletionRequest ⊕ OmniRequest))).Keeps Undisturbed :=
    (undisturbed_completion completion).bind fun _ => keeps_pure _
  refine undisturbed_usesOmni.bind fun usesOmni => ?_
  split
  · refine (undisturbed_lift ((calm_makeRequest _).bind fun _ => keeps_pure _)).bind fun _ => ?_
    exact (keeps_pure _).bind fun _ => keeping _
  · refine (undisturbed_addConfData []).bind fun extra => ?_
    refine undisturbed_isServerAlive.bind fun isAlive => ?_
    split
    · exact (undisturbed_lift (calm_makeRequest _)).bind fun _ => (keeps_pure _).bind fun _ => keeping _
    · exact (keeps_pure _).bind fun _ => keeping _

theorem undisturbed_sendOmni (request : OmniRequest) (query : Value) :
    (onOmni (request.send query)).Keeps Undisturbed :=
  undisturbed_onOmni ((Completer.OmniState.calm_compute _).bind fun _ => keeps_pure _)

/-- A request for completions that is made, sent and waited for. -/
theorem undisturbed_completions (query : Value) (isForced : Bool) :
    (Session.completionsStep query isForced).Keeps Undisturbed := by
  refine (undisturbed_makeCompletion isForced).bind fun request => ?_
  dsimp only
  split
  · exact keeps_pure _
  · refine (undisturbed_lift (calm_sendRequest _ _)).bind fun _ => (undisturbed_completion _).bind fun _ => ?_
    exact keeps_except_bind fun _ => (undisturbed_lift (calm_completionResponse _)).bind fun _ => keeps_pure _
  · refine (undisturbed_sendOmni _ _).bind fun _ => (undisturbed_completion _).bind fun _ => ?_
    exact keeps_except_bind fun _ => keeps_pure _

end Completions

section Reports

theorem undisturbed_addTagFiles (extra : Value.Fields) : (addTagFiles extra).Keeps Undisturbed := by
  refine (undisturbed_option _).bind fun wanted => ?_
  split
  · exact keeps_pure _
  · refine (undisturbed_lift (keeps_evaluate _)).bind fun _ => keeps_get.bind fun _ => ?_
    exact keeps_except_bind fun _ => keeps_except_bind fun _ => keeps_pure _

theorem undisturbed_addKeywords (extra : Value.Fields) : (addKeywords extra).Keeps Undisturbed := by
  have noting (filetype : String) : (change fun client =>
      { client with filetypesSent := client.filetypesSent ++ [filetype] }).Keeps Undisturbed :=
    fun state => ⟨Chains.refl state.2, rfl, rfl, rfl⟩
  refine (undisturbed_option _).bind fun wanted => ?_
  split
  · exact keeps_pure _
  · refine (undisturbed_lift keeps_filetypes).bind fun _ => keeps_get.bind fun _ => ?_
    split
    · exact keeps_pure _
    · exact (noting _).bind fun _ => (undisturbed_lift calm_highlightKeywords).bind fun _ => keeps_pure _

theorem undisturbed_reportEvent (name : String) {extra : Doing Value} (calm : extra.Keeps Undisturbed) :
    (reportEvent name extra).Keeps Undisturbed := by
  refine undisturbed_isServerAlive.bind fun isAlive => ?_
  split
  · exact keeps_pure _
  · exact calm.bind fun _ => undisturbed_lift (calm_report _ _)

theorem undisturbed_runCommand (arguments target : Value) : (runCommand arguments target).Keeps Undisturbed := by
  refine undisturbed_isServerAlive.bind fun isAlive => ?_
  split
  · exact keeps_pure _
  · exact undisturbed_lift (calm_performCommand _ _)

theorem undisturbed_definedSubcommands : definedSubcommands.Keeps Undisturbed := by
  refine undisturbed_isServerAlive.bind fun isAlive => ?_
  split
  · exact keeps_pure _
  · exact undisturbed_lift (calm_askHere _)

end Reports

section Diagnosed

theorem undisturbed_diagnosticsReady : diagnosticsReady.Keeps Undisturbed := by
  refine keeps_get.bind fun state => ?_
  cases state.1.parse with
  | none => exact keeps_pure _
  | some request => exact keeps_except_bind fun _ => keeps_pure _

theorem undisturbed_takeDiagnostics (asItems : Bool) : (takeDiagnostics asItems).Keeps Undisturbed := by
  refine undisturbed_diagnosticsReady.bind fun isReady => keeps_get.bind fun state => ?_
  split
  · refine (undisturbed_lift (calm_eventResponse _)).bind fun _ => (undisturbed_parse _).bind fun _ => ?_
    split
    · exact undisturbed_lift (keeps_locationItems _)
    · exact keeps_pure _
  · exact keeps_pure _

theorem undisturbed_updateDiagnostics : updateDiagnostics.Keeps Undisturbed := by
  refine undisturbed_diagnosticsReady.bind fun isReady => ?_
  split
  · exact keeps_pure _
  · exact (undisturbed_takeDiagnostics _).bind fun _ => undisturbed_onDiagnostics (Diagnostics.calm_update _)

theorem undisturbed_showDetails : showDetails.Keeps Undisturbed := by
  have answering : showDetails.showAnswer.Keeps Undisturbed := by
    refine (undisturbed_lift (calm_askHere _)).bind fun _ => keeps_except_bind fun holds => ?_
    split
    · exact keeps_except_bind fun _ => undisturbed_lift (calm_showText _ _)
    · exact keeps_pure _
  refine undisturbed_isServerAlive.bind fun isAlive => ?_
  split
  · exact keeps_pure _
  · refine answering.tryCatch fun fault => ?_
    dsimp only
    split
    · exact (keeps_throw _).bind fun _ => undisturbed_lift (calm_postMessage _)
    · exact undisturbed_lift (calm_postMessage _)

theorem undisturbed_debugInfo : debugInfo.Keeps Undisturbed := by
  refine undisturbed_isServerAlive.bind fun isAlive => ?_
  dsimp only
  refine keeps_choice_bind (undisturbed_lift (calm_askHere _)) (keeps_pure _) fun status => ?_
  refine keeps_get.bind fun _ => keeps_except_bind fun _ => ?_
  refine keeps_get.bind fun _ => keeps_except_bind fun _ => keeps_get.bind fun state => ?_
  cases state.1.logs with
  | some logs => exact keeps_except _
  | none => exact keeps_pure _

end Diagnosed

end Client

end Typeahead

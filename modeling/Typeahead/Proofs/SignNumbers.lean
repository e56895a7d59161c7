import Typeahead.Proofs.ErrorsFirst
import Typeahead.Proofs.SignsShown

namespace Typeahead

/-! The numbers of signs. Every update goes on counting where the last one has stopped, so the signs are numbered
through in the order in which they are placed. An update that fails keeps the count too: it has failed before its first
sign or behind its last one, if only the editor answers. -/

namespace Editor

section Counting

def SignCommand.placed? : SignCommand → Option Nat
  | unplaceAll _ => none
  | place id _ _ _ => some id

def placedIds (commands : List SignCommand) : List Nat := commands.filterMap SignCommand.placed?

/-- Commands place so many signs, with the numbers from the next one on. -/
structure CountsOn (next count later : Nat) (commands : List SignCommand) : Prop where
  counts : later = next + count
  ids : placedIds commands = List.range' next count

variable {next middle later count more : Nat} {commands others : List SignCommand}

theorem countsOn_none (next : Nat) (silent : placedIds commands = []) : CountsOn next 0 next commands := ⟨rfl, silent⟩

theorem countsOn_place (next : Nat) (line buffer : Int) (isError : Bool) :
    CountsOn next 1 (next + 1) [.place next line buffer isError] := ⟨rfl, rfl⟩

theorem CountsOn.append (first : CountsOn next count middle commands) (second : CountsOn middle more later others) :
    CountsOn next (count + more) later (commands ++ others) where
  counts := by rw [second.counts, first.counts, Nat.add_assoc]
  ids := by
    have joined : placedIds (commands ++ others) = placedIds commands ++ placedIds others := List.filterMap_append
    rw [joined, first.ids, second.ids, first.counts, List.range'_append_1]

end Counting

section Unanswered

variable {α β : Type} {scene : Workspace} {act : Act Workspace α} {next : α → Act Workspace β}

def windowNumberOf (buffer : Int) : String := "bufwinnr(" ++ toString buffer ++ ")"

/-- An act that fails has asked for a window, and the editor does not answer that with a number. -/
def FailsUnanswered (scene : Workspace) (act : Act Workspace α) : Prop :=
  ∀ events fault after, act.run.run { scene with events } = (.error fault, after) →
    ∃ added buffer, after = { scene with events := events ++ added } ∧ .evaluate (windowNumberOf buffer) ∈ added ∧
      ∀ window, intAnswerTo scene (windowNumberOf buffer) ≠ .ok window

theorem Succeeds.failsUnanswered (succeeds : Succeeds scene act) : FailsUnanswered scene act := by
  intro events fault after failed
  obtain ⟨_, _, done⟩ := succeeds events
  cases done.symm.trans failed

theorem FailsUnanswered.bind {post : α → List SignCommand → Prop} (first : FailsUnanswered scene act)
    (emits : Emits scene act post) (rest : ∀ value, FailsUnanswered scene (next value)) :
    FailsUnanswered scene (act >>= next) := by
  intro events fault after failed
  rcases running : act.run.run { scene with events } with ⟨result, middle⟩
  cases result with
  | error stopped =>
      rw [Act.run_bind_error running] at failed
      cases failed
      exact first events _ _ running
  | ok value =>
      rw [Act.run_bind_ok running] at failed
      obtain ⟨added, rfl, _⟩ := emits events value middle running
      obtain ⟨others, buffer, same, asked, unanswered⟩ := rest value (events ++ added) fault after failed
      exact ⟨added ++ others, buffer, by rw [same, List.append_assoc], List.mem_append_right _ asked, unanswered⟩

theorem failsUnanswered_foldlM {step : β → α → Act Workspace β} {post : β → List SignCommand → Prop} {items : List α}
    (steps : ∀ item ∈ items, ∀ state, FailsUnanswered scene (step state item))
    (emits : ∀ item state, Emits scene (step state item) post) (start : β) :
    FailsUnanswered scene (items.foldlM step start) := by
  induction items generalizing start with
  | nil => exact (succeeds_pure start).failsUnanswered
  | cons item items ih =>
      obtain ⟨first, later⟩ := List.forall_mem_cons.mp steps
      rw [List.foldlM_cons]
      exact (first start).bind (emits item start) fun state => ih later state

theorem failsUnanswered_isVisible (buffer : Int) : FailsUnanswered scene (isVisible buffer) := by
  unfold isVisible
  split
  · exact (succeeds_pure _).failsUnanswered
  · refine FailsUnanswered.bind ?_ (emits_evaluateInt _) fun _ => (succeeds_pure _).failsUnanswered
    intro events fault after failed
    rw [run_evaluateInt] at failed
    obtain ⟨unanswered, same⟩ := Prod.mk.inj failed
    refine ⟨[.evaluate (windowNumberOf buffer)], buffer, same.symm, List.mem_singleton_self _, ?_⟩
    intro window answered
    cases answered.symm.trans unanswered

end Unanswered

end Editor

namespace Client.Diagnostics

open Act Editor

section Placing

variable {scene : Workspace}

/-- Of diagnostics with their places, those in buffers that are shown. -/
def shownSpots (workspace : Workspace) (found : List Spot) : List Spot := found.filter (shows workspace ·.buffer)

theorem shownSpots_append (first second : List Spot) :
    shownSpots scene (first ++ second) = shownSpots scene first ++ shownSpots scene second := List.filter_append ..

theorem shownSpots_spotsOf (buffer : Int) (lines : Lines) :
    shownSpots scene (spotsOf buffer lines) = if shows scene buffer then spotsOf buffer lines else [] := by
  have same : shownSpots scene (spotsOf buffer lines) = (spotsOf buffer lines).filter fun _ => shows scene buffer :=
    List.filter_congr fun spot member => by rw [buffer_of_mem_spotsOf member]
  rw [same]
  cases shows scene buffer <;> simp

theorem countsOn_placeSigns (buffer line : Int) (next : Nat) (diagnostics : List Value) :
    Emits scene (placeSigns buffer line next diagnostics) (CountsOn next diagnostics.length) := by
  refine emits_foldlM (fun done => CountsOn next done.length) ?_ diagnostics (countsOn_none next rfl)
  intro done diagnostic later commands numbers
  refine emits_lift_bind fun isError _ => ?_
  refine (emits_command (.place later line buffer isError)).bind fun _ more placing => emits_pure ?_
  rw [placing, List.append_nil, List.length_append]
  exact numbers.append (countsOn_place later line buffer isError)

theorem countsOn_unplaceSigns (buffer : Int) (next : Nat) :
    Emits scene (unplaceSigns buffer) fun _ commands => CountsOn next 0 next commands := by
  refine (emits_unplaceSigns buffer).imp fun _ commands cleared => countsOn_none next ?_
  rw [cleared]
  split <;> rfl

theorem countsOn_renewSigns (buffer : Int) (lines : Lines) (next : Nat) :
    Emits scene (renewSigns buffer lines next) (CountsOn next (shownSpots scene (spotsOf buffer lines)).length) := by
  unfold renewSigns
  rw [shownSpots_spotsOf]
  refine (emits_isVisible buffer).bind_silent fun isShown known => ?_
  subst known
  cases shows scene buffer with
  | false => exact emits_pure (countsOn_none next rfl)
  | true =>
      refine (countsOn_unplaceSigns buffer next).bind fun _ commands cleared => ?_
      let placed : Lines → Nat → List SignCommand → Prop := fun done later more =>
        CountsOn next (spotsOf buffer done).length later (commands ++ more)
      have starts : placed [] next [] := by simpa [placed, spotsOf] using cleared
      refine (emits_foldlM placed ?_ lines starts).imp fun later more numbers => numbers
      intro done entry later more numbers
      refine (countsOn_placeSigns buffer entry.1 later entry.2).imp fun last others placing => ?_
      have both := numbers.append placing
      rw [List.append_assoc] at both
      simpa [placed, spotsOf] using both

theorem countsOn_updateSigns (groups : Groups) (next : Nat) :
    Emits scene (updateSigns groups next) (CountsOn next (shownSpots scene (spots groups)).length) := by
  unfold updateSigns
  refine emits_buffer.bind_silent fun found _ => ?_
  refine (countsOn_unplaceSigns found.number next).bind fun _ commands cleared => ?_
  let renewed : Groups → Nat → List SignCommand → Prop := fun done later more =>
    CountsOn next (shownSpots scene (spots done)).length later (commands ++ more)
  have starts : renewed [] next [] := by simpa [renewed, spots, shownSpots] using cleared
  refine (emits_foldlM renewed ?_ groups starts).imp fun later more numbers => numbers
  intro done entry later more numbers
  refine (countsOn_renewSigns entry.1 entry.2 later).imp fun last others renewing => ?_
  have both := numbers.append renewing
  rw [List.append_assoc] at both
  simpa [renewed, spots, shownSpots_append] using both

theorem failsUnanswered_renewSigns {buffer : Int} {lines : Lines}
    (kinds : ∀ spot ∈ spotsOf buffer lines, HasKind spot.diagnostic) (next : Nat) :
    FailsUnanswered scene (renewSigns buffer lines next) := by
  refine (failsUnanswered_isVisible buffer).bind (emits_isVisible buffer) fun isShown => ?_
  split
  · exact (succeeds_pure _).failsUnanswered
  · refine Succeeds.failsUnanswered ((succeeds_unplaceSigns buffer).bind fun _ => ?_)
    refine succeeds_foldlM (fun entry member later => succeeds_placeSigns (fun diagnostic listed => ?_) _ _ _) next
    exact kinds ⟨buffer, entry.1, diagnostic⟩ (List.mem_flatMap.mpr ⟨entry, member, List.mem_map_of_mem listed⟩)

theorem failsUnanswered_updateSigns {groups : Groups} {current : Int} (known : currentNumber scene = .ok current)
    (kinds : ∀ spot ∈ spots groups, HasKind spot.diagnostic) (next : Nat) :
    FailsUnanswered scene (updateSigns groups next) := by
  refine (succeeds_buffer known).failsUnanswered.bind emits_buffer fun found => ?_
  refine (succeeds_unplaceSigns _).failsUnanswered.bind (emits_unplaceSigns _) fun _ => ?_
  have adds (entry : Int × Lines) (later : Nat) :
      Emits scene (renewSigns entry.1 entry.2 later) fun _ _ => True :=
    (countsOn_renewSigns entry.1 entry.2 later).imp fun _ _ _ => trivial
  refine failsUnanswered_foldlM (fun entry member later => failsUnanswered_renewSigns ?_ later) adds next
  intro spot listed
  exact kinds spot (List.mem_flatMap.mpr ⟨entry, member, listed⟩)

end Placing

section Updates

def bufferOfDiagnostic (workspace : Workspace) (diagnostic : Value) : Except Fault Int := do
  bufferOf workspace (← (← diagnostic.field "location").field "filepath")

/-- Of diagnostics, those in buffers that are shown. -/
def inView (workspace : Workspace) (diagnostics : Value) : List Value :=
  (diagnostics.elements.toOption.getD []).filter fun diagnostic =>
    (bufferOfDiagnostic workspace diagnostic).toOption.any (shows workspace)

theorem buffer_of_spotAt {workspace : Workspace} {diagnostic : Value} {spot : Spot}
    (isSpot : spotAt workspace diagnostic = .ok spot) : bufferOfDiagnostic workspace diagnostic = .ok spot.buffer := by
  obtain ⟨location, isLocation, isSpot⟩ := bind_eq_ok_iff.mp isSpot
  obtain ⟨path, isPath, isSpot⟩ := bind_eq_ok_iff.mp isSpot
  obtain ⟨buffer, isBuffer, isSpot⟩ := bind_eq_ok_iff.mp isSpot
  obtain ⟨number, isNumber, isSpot⟩ := bind_eq_ok_iff.mp isSpot
  obtain ⟨sum, isSum, isSpot⟩ := bind_eq_ok_iff.mp isSpot
  obtain ⟨line, isLine, isSpot⟩ := bind_eq_ok_iff.mp isSpot
  cases isSpot
  exact bind_eq_ok_iff.mpr ⟨location, isLocation, bind_eq_ok_iff.mpr ⟨path, isPath, isBuffer⟩⟩

theorem length_shownSpots {workspace : Workspace} {diagnostics : Value} {found : List Spot}
    (read : spotsIn workspace diagnostics = .ok found) :
    (shownSpots workspace found).length = (inView workspace diagnostics).length := by
  obtain ⟨items, areItems, spots⟩ := bind_eq_ok_iff.mp read
  have each := mapM_eq_ok_iff.mp spots
  rw [inView, areItems, shownSpots, Except.toOption, Option.getD_some]
  clear read areItems spots
  induction each with
  | nil => rfl
  | @cons item spot _ _ first _ ih =>
      have known :
          (bufferOfDiagnostic workspace item).toOption.any (shows workspace) = shows workspace spot.buffer := by
        rw [buffer_of_spotAt first]
        rfl
      rw [List.filter_cons, List.filter_cons, known]
      cases shows workspace spot.buffer with
      | true => simpa using ih
      | false => simpa using ih

end Updates

namespace Update

variable {update : Update} {state : Diagnostics} {flag : Value}

def added (update : Update) (state : Diagnostics) : List Event :=
  (update.run state).2.2.events.drop update.workspace.events.length

/-- The numbers of the signs that an update places, in order. -/
def placed (update : Update) (state : Diagnostics) : List Nat := placedIds (signCommands (update.added state))

/-- The diagnostics are these errors and warnings, and the editor knows the buffers of their files. -/
structure Tells (update : Update) (reports : List Report) (number : String → Int) : Prop where
  listed : update.diagnostics = .list (reports.map (·.value))
  numbered : ∀ report ∈ reports, bufferOf update.workspace (.text report.path) = .ok (number report.path)

/-- Of errors and warnings, those in buffers that are shown. -/
def shownReports (update : Update) (reports : List Report) (number : String → Int) : List Report :=
  reports.filter fun report => shows update.workspace (number report.path)

/-- The editor does not fail while signs are placed: it has a current buffer, and answers each question for a window
with a number. -/
def CallsSucceed (update : Update) (state : Diagnostics) : Prop :=
  (∃ current, update.IsCurrent current) ∧ ∀ buffer, .evaluate (windowNumberOf buffer) ∈ update.added state →
    ∃ window, intAnswerTo update.workspace (windowNumberOf buffer) = .ok window

theorem added_of_run {result : Except Fault Unit} {later : Diagnostics} {more : List Event}
    (ran : update.run state = (result, later, { update.workspace with events := update.workspace.events ++ more })) :
    update.added state = more := by
  rw [added, ran]
  exact List.drop_left

/-- What an update does once its diagnostics have been read. -/
theorem run_of_grouped {groups : Groups} {asked : List Event}
    (given : state.options.lookup "enable_diagnostic_signs" = some flag) (enabled : flag.isPresent = true)
    (read : (grouped update.diagnostics).run.run update.workspace =
      (.ok groups, { update.workspace with events := update.workspace.events ++ asked })) :
    ∃ rest : Doing Unit, rest.Keeps SparesSigns ∧ update.run state = (do
      let nextSign ← (updateSigns groups state.nextSign : Act Workspace Nat)
      change fun state => { state with nextSign }
      rest : Doing Unit).run.run
        ({ state with groups }, { update.workspace with events := update.workspace.events ++ asked }) := by
  refine ⟨_, spares_highlights_and_list update.diagnostics, ?_⟩
  refine (run_bind_ok (run_lift_ok read state)).trans ?_
  refine (run_bind_ok rfl).trans ?_
  have isFlag := run_option (show ({ state with groups } : Diagnostics).options.lookup _ = some flag from given)
    { update.workspace with events := update.workspace.events ++ asked }
  rw [run_bind_ok isFlag]
  dsimp only
  rw [if_pos enabled]
  rfl

theorem length_shownSpots_groups {groups : Groups} {found : List Spot}
    (read : spotsIn update.workspace update.diagnostics = .ok found) (moved : (spots groups).Perm found) :
    (shownSpots update.workspace (spots groups)).length = (inView update.workspace update.diagnostics).length := by
  rw [← length_shownSpots read]
  exact (moved.filter _).length_eq

variable {reports : List Report} {number : String → Int}

/-- Errors and warnings in files that the editor knows can be told apart by buffer and line. -/
theorem Tells.exists_grouped (tells : update.Tells reports number) :
    ∃ groups, ((grouped update.diagnostics).run.run update.workspace).1 = .ok groups := by
  obtain ⟨groups, collects⟩ := exists_collects reports number
  obtain ⟨_, running⟩ := collects.answers tells.numbered update.workspace.events
  rw [tells.listed]
  exact ⟨groups, congrArg Prod.fst running⟩

theorem Tells.length_inView (tells : update.Tells reports number) :
    (inView update.workspace update.diagnostics).length = (update.shownReports reports number).length := by
  have read := spotsIn_values tells.numbered
  rw [← tells.listed] at read
  rw [← length_shownSpots read, shownSpots, List.filter_map, List.length_map]
  rfl

section Signed

variable {groups : Groups} {asked : List Event}

/-- If the editor does not fail, then signs are placed: the only way to fail is a question that it leaves open. -/
theorem exists_signed (given : state.options.lookup "enable_diagnostic_signs" = some flag)
    (enabled : flag.isPresent = true) (succeed : update.CallsSucceed state)
    (read : (grouped update.diagnostics).run.run update.workspace =
      (.ok groups, { update.workspace with events := update.workspace.events ++ asked }))
    (kinds : ∀ spot ∈ spots groups, HasKind spot.diagnostic) :
    ∃ nextSign signed, (updateSigns groups state.nextSign).run.run
      { update.workspace with events := update.workspace.events ++ asked } = (.ok nextSign, signed) := by
  obtain ⟨current, isCurrent⟩ := succeed.1
  obtain ⟨_, _, ran⟩ := run_of_grouped given enabled read
  rcases signing : (updateSigns groups state.nextSign).run.run
    { update.workspace with events := update.workspace.events ++ asked } with ⟨result, signed⟩
  cases result with
  | ok nextSign => exact ⟨nextSign, signed, rfl⟩
  | error fault =>
      obtain ⟨more, buffer, rfl, isAsked, unanswered⟩ := failsUnanswered_updateSigns isCurrent kinds _ _ _ _ signing
      have ended := ran.trans (run_bind_error (run_lift_error signing _))
      rw [List.append_assoc] at ended
      have isAdded := added_of_run ended
      obtain ⟨window, answered⟩ := succeed.2 buffer (isAdded ▸ List.mem_append_right _ isAsked)
      exact absurd answered (unanswered window)

/-- What follows the signs leaves them as they are. -/
theorem signCommands_of_signed {nextSign : Nat} {more : List Event}
    (given : state.options.lookup "enable_diagnostic_signs" = some flag) (enabled : flag.isPresent = true)
    (read : (grouped update.diagnostics).run.run update.workspace =
      (.ok groups, { update.workspace with events := update.workspace.events ++ asked }))
    (noSigns : signCommands asked = [])
    (signing : (updateSigns groups state.nextSign).run.run
      { update.workspace with events := update.workspace.events ++ asked } =
        (.ok nextSign, { update.workspace with events := update.workspace.events ++ asked ++ more })) :
    (update.run state).2.1.options = state.options ∧ (update.run state).2.1.nextSign = nextSign ∧
      signCommands (update.added state) = signCommands more := by
  obtain ⟨rest, spares, ran⟩ := run_of_grouped given enabled read
  have ended := ran.trans ((run_bind_ok (run_lift_ok signing _)).trans (run_bind_ok rfl))
  have kept := spares ({ state with groups, nextSign },
    { update.workspace with events := update.workspace.events ++ asked ++ more })
  obtain ⟨⟨others, isAfter, noOthers⟩, sameNext, sameOptions⟩ : SparesSigns _ (update.run state).2 := ended ▸ kept
  have isAdded : update.added state = asked ++ (more ++ others) := by
    rw [added, isAfter]
    simp
  refine ⟨sameOptions, sameNext, ?_⟩
  rw [isAdded, signCommands_append, signCommands_append, noSigns, noOthers, List.nil_append, List.append_nil]

end Signed

/-- An update numbers its signs from where the last one stopped. It places one for each diagnostic in view, or it cannot
read them and places none; errors and warnings it can read. -/
theorem countsOn_placed (given : state.options.lookup "enable_diagnostic_signs" = some flag)
    (enabled : flag.isPresent = true) (succeed : update.CallsSucceed state) :
    (update.run state).2.1.options = state.options ∧ ∃ count,
      CountsOn state.nextSign count (update.run state).2.1.nextSign (signCommands (update.added state)) ∧
      (∀ reports number, update.Tells reports number → count = (update.shownReports reports number).length) ∧
      (count = 0 ∨ count = (inView update.workspace update.diagnostics).length) := by
  rcases reading : (grouped update.diagnostics).run.run update.workspace with ⟨result, asking⟩
  obtain ⟨asked, rfl, noSigns⟩ : Silent update.workspace asking := (keeps_grouped _).of_run reading
  cases result with
  | error fault =>
      have ran : update.run state = (.error fault, state, _) := run_bind_error (run_lift_error reading state)
      rw [added_of_run ran, ran]
      refine ⟨rfl, 0, countsOn_none _ (by rw [noSigns]; rfl), fun reports number tells => ?_, .inl rfl⟩
      obtain ⟨groups, read⟩ := tells.exists_grouped
      rw [reading] at read
      cases read
  | ok groups =>
      obtain ⟨_, _, _, found, read, isSorted⟩ := emits_grouped update.diagnostics _ _ _ reading
      obtain ⟨_, _, moved, kinds⟩ := groups_of_sorted isSorted
      obtain ⟨nextSign, signed, signing⟩ := exists_signed given enabled succeed reading
        fun spot member => kinds spot (moved.mem_iff.mp member)
      obtain ⟨more, rfl, numbers⟩ := countsOn_updateSigns groups state.nextSign _ _ _ signing
      obtain ⟨sameOptions, isNext, commands⟩ := signCommands_of_signed given enabled reading noSigns signing
      rw [commands, isNext]
      have inViewOnly := length_shownSpots_groups read moved
      exact ⟨sameOptions, _, numbers, fun _ _ tells => inViewOnly.trans tells.length_inView, .inr inViewOnly⟩

end Update

section Runs

/-- Updates one after another, each with the numbers of the signs that it places. -/
def placings : Diagnostics → List Update → List (Update × List Nat)
  | _, [] => []
  | state, update :: later => (update, update.placed state) :: placings (update.run state).2.1 later

def AllCallsSucceed : Diagnostics → List Update → Prop
  | _, [] => True
  | state, update :: later => update.CallsSucceed state ∧ AllCallsSucceed (update.run state).2.1 later

theorem map_fst_placings (state : Diagnostics) (updates : List Update) :
    (placings state updates).map (·.1) = updates := by
  induction updates generalizing state with
  | nil => rfl
  | cons update later ih => rw [placings, List.map_cons, ih]

variable {state : Diagnostics} {flag : Value} {updates : List Update}

/-- The numbers go on from one update to the next, so over all of them there is neither a gap nor a repeat. -/
theorem flatMap_placings (given : state.options.lookup "enable_diagnostic_signs" = some flag)
    (enabled : flag.isPresent = true) (succeed : AllCallsSucceed state updates) :
    ∃ count, (placings state updates).flatMap (·.2) = List.range' state.nextSign count := by
  induction updates generalizing state with
  | nil => exact ⟨0, rfl⟩
  | cons update later ih =>
      obtain ⟨sameOptions, count, numbers, _⟩ := Update.countsOn_placed given enabled succeed.1
      obtain ⟨more, others⟩ := ih (by rw [sameOptions]; exact given) succeed.2
      refine ⟨count + more, ?_⟩
      rw [placings, List.flatMap_cons, others, Update.placed, numbers.ids, numbers.counts, List.range'_append_1]

theorem length_of_mem_placings (given : state.options.lookup "enable_diagnostic_signs" = some flag)
    (enabled : flag.isPresent = true) (succeed : AllCallsSucceed state updates) {placing : Update × List Nat}
    (member : placing ∈ placings state updates) :
    (∀ reports number, placing.1.Tells reports number →
        placing.2.length = (placing.1.shownReports reports number).length) ∧
      (placing.2 = [] ∨ placing.2.length = (inView placing.1.workspace placing.1.diagnostics).length) := by
  induction updates generalizing state with
  | nil => cases member
  | cons update later ih =>
      obtain ⟨sameOptions, count, numbers, told, either⟩ := Update.countsOn_placed given enabled succeed.1
      rw [placings, List.mem_cons] at member
      rcases member with rfl | member
      · rw [Update.placed, numbers.ids, List.length_range', List.range'_eq_nil_iff]
        exact ⟨told, either⟩
      · exact ih (by rw [sameOptions]; exact given) succeed.2 member

end Runs

/-- Over all updates with signs the signs are numbered 1, 2, 3 and so on in the order in which they are placed, and each
update that is told errors and warnings places one for each of them that is in a shown buffer. Whatever else an update is
told, it places a sign for each diagnostic in a shown buffer or none at all, and the numbers go on. This holds for whatever
the editor shows at each time, also if an update fails, as long as the editor does not. -/
theorem sign_numbers_never_reused {options : Value.Fields} {flag : Value}
    (given : options.lookup "enable_diagnostic_signs" = some flag) (enabled : flag.isPresent = true)
    (updates : List Update) (succeed : AllCallsSucceed { options } updates) :
    (placings { options } updates).map (·.1) = updates ∧
    (∃ count, (placings { options } updates).flatMap (·.2) = List.range' 1 count) ∧
    ((placings { options } updates).flatMap (·.2)).Nodup ∧
    ∀ placing ∈ placings { options } updates,
      (∀ reports number, placing.1.Tells reports number →
        placing.2.length = (placing.1.shownReports reports number).length) ∧
      (placing.2 = [] ∨ placing.2.length = (inView placing.1.workspace placing.1.diagnostics).length) := by
  have known : ({ options } : Diagnostics).options.lookup "enable_diagnostic_signs" = some flag := given
  obtain ⟨count, numbered⟩ := flatMap_placings known enabled succeed
  refine ⟨map_fst_placings _ updates, ⟨count, numbered⟩, ?_, ?_⟩
  · rw [numbered]
    exact List.nodup_range'
  · intro placing member
    exact length_of_mem_placings known enabled succeed member

section HiddenBuffer

/-- Of three buffers the third is in no window. -/
def thirdHidden : Workspace :=
  { editor :=
      { buffers := [⟨"/one.cpp", 1, [""]⟩, ⟨"/two.cpp", 2, [""]⟩, ⟨"/three.cpp", 3, [""]⟩]
        answers := [("bufwinnr(3)", .ok (.int (-1))), ("bufwinnr(", .ok (.int 1)), ("bufnr('/two.cpp'", .ok (.int 2)),
          ("bufnr('/three.cpp'", .ok (.int 3))] } }

/-- Errors in some files. -/
def errorsIn (files : List String) : Update := ⟨.list (files.map errorIn), thirdHidden⟩

/-- Errors in a shown buffer and in a hidden one, then diagnostics that cannot be read, then an error again. -/
def erringUpdates : List Update :=
  [errorsIn ["/two.cpp", "/three.cpp"], ⟨.list [.null], thirdHidden⟩, errorsIn ["/two.cpp"]]

def errorReport (file : String) : Report where
  value := errorIn file
  location := .record [("filepath", .text file), ("line_num", .int 1), ("column_num", .int 0)]
  path := file
  line := 1
  column := 0
  isError := true
  hasLocation := rfl
  hasPath := rfl
  hasLine := rfl
  hasColumn := rfl
  hasKind := rfl

def numberIn (file : String) : Int := if file = "/two.cpp" then 2 else 3

theorem tells_errorsIn (files : List String) (known : ∀ file ∈ files, file = "/two.cpp" ∨ file = "/three.cpp") :
    (errorsIn files).Tells (files.map errorReport) numberIn where
  listed := by
    rw [List.map_map]
    rfl
  numbered := by
    have second : bufferOf thirdHidden (.text "/two.cpp") = .ok 2 := Act.eq_ok_of_toOption (by decide +kernel)
    have third : bufferOf thirdHidden (.text "/three.cpp") = .ok 3 := Act.eq_ok_of_toOption (by decide +kernel)
    intro report listed
    obtain ⟨file, isFile, rfl⟩ := List.mem_map.mp listed
    rcases known file isFile with rfl | rfl
    · exact second
    · exact third

theorem exists_window (buffer : Int) : ∃ window, intAnswerTo thirdHidden (windowNumberOf buffer) = .ok window := by
  have starts : Text.startsWith (windowNumberOf buffer) "bufwinnr(" = true := by
    rw [windowNumberOf, String.append_assoc]
    exact Text.startsWith_append _ _
  have answer : thirdHidden.editor.answer? (windowNumberOf buffer) =
      some (.ok (.int (if Text.startsWith (windowNumberOf buffer) "bufwinnr(3)" then -1 else 1))) := by
    simp only [answer?, thirdHidden, List.find?_cons, starts]
    cases Text.startsWith (windowNumberOf buffer) "bufwinnr(3)" <;> rfl
  unfold intAnswerTo answerTo
  rw [answer]
  exact ⟨_, rfl⟩

theorem allCallsSucceed_erringUpdates : AllCallsSucceed { options := signsOnly } erringUpdates := by
  have each (diagnostics : Value) (state : Diagnostics) : Update.CallsSucceed ⟨diagnostics, thirdHidden⟩ state :=
    ⟨⟨1, rfl⟩, fun buffer _ => exists_window buffer⟩
  exact ⟨each _ _, each _ _, each _ _, trivial⟩

end HiddenBuffer

/-- One of two errors is in a shown buffer and has the sign 1; the next sign, after an update that failed, has the number
2. -/
theorem sign_numbers_never_reused_after_failure :
    signsOnly.lookup "enable_diagnostic_signs" = some (.bool true) ∧
    AllCallsSucceed { options := signsOnly } erringUpdates ∧
    (errorsIn ["/two.cpp", "/three.cpp"]).Tells [errorReport "/two.cpp", errorReport "/three.cpp"] numberIn ∧
    (placings { options := signsOnly } erringUpdates).map (·.2) = [[1], [], [2]] := by
  have two := tells_errorsIn ["/two.cpp", "/three.cpp"] (by simp)
  have one := tells_errorsIn ["/two.cpp"] (by simp)
  refine ⟨rfl, allCallsSucceed_erringUpdates, two, ?_⟩
  obtain ⟨_, ⟨count, inOrder⟩, _, each⟩ := sign_numbers_never_reused rfl rfl erringUpdates allCallsSucceed_erringUpdates
  unfold erringUpdates at inOrder each ⊢
  simp only [placings, List.forall_mem_cons, List.flatMap_cons, List.map_cons] at inOrder each ⊢
  obtain ⟨⟨ofTwo, _⟩, ⟨_, ofNone⟩, ⟨ofOne, _⟩, _⟩ := each
  have oneShown : ((errorsIn ["/two.cpp", "/three.cpp"]).shownReports
      (["/two.cpp", "/three.cpp"].map errorReport) numberIn).length = 1 := by decide +kernel
  have onlyShown : ((errorsIn ["/two.cpp"]).shownReports (["/two.cpp"].map errorReport) numberIn).length = 1 := by
    decide +kernel
  obtain ⟨first, isFirst⟩ := List.length_eq_one_iff.mp ((ofTwo _ _ two).trans oneShown)
  obtain ⟨last, isLast⟩ := List.length_eq_one_iff.mp ((ofOne _ _ one).trans onlyShown)
  have nothing := ofNone.elim id List.eq_nil_of_length_eq_zero
  rw [isFirst, isLast, nothing] at inOrder ⊢
  have isTwo : 2 = count := by simpa using congrArg List.length inOrder
  subst isTwo
  obtain ⟨rfl, rfl⟩ : first = 1 ∧ last = 2 := by simpa [List.range'] using inOrder
  rfl

end Client.Diagnostics

end Typeahead

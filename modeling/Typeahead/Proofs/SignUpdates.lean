import Typeahead.Proofs.Acts
import Typeahead.Proofs.DiagnosticGroups
import Typeahead.Proofs.EditorAnswers
import Typeahead.Proofs.SignTable

namespace Typeahead

/-! Which commands for signs an update of the diagnostics gives. Whatever it asks the editor, it changes nothing in
the workspace but the events. -/

namespace Editor

variable {α β : Type}

section Answers

/-- The number of the buffer of a file, which is opened if needed. -/
def bufferOf (workspace : Workspace) (path : Value) : Except Fault Int := do
  intAnswerTo workspace (bufferNumberOf (workspace.real (← path.asText)) true)

/-- Whether a buffer is shown in a window. -/
def shows (workspace : Workspace) (buffer : Int) : Bool :=
  decide (0 ≤ buffer) && (intAnswerTo workspace ("bufwinnr(" ++ toString buffer ++ ")")).toOption.any (· != -1)

/-- The number of the buffer that the cursor is in. -/
def currentNumber (workspace : Workspace) : Except Fault Int := do
  return (← Value.nth workspace.editor.buffers workspace.editor.current).number

end Answers

section Emits

variable {scene : Workspace} {act : Act Workspace α} {next : α → Act Workspace β}

/-- If an act succeeds in a scene, it has added events to those so far and changed nothing else, and its value and the
commands for signs among those events are as stated. -/
def Emits (scene : Workspace) (act : Act Workspace α) (post : α → List SignCommand → Prop) : Prop :=
  ∀ events value after, act.run.run { scene with events } = (.ok value, after) →
    ∃ added, after = { scene with events := events ++ added } ∧ post value (signCommands added)

theorem Emits.imp {post weaker : α → List SignCommand → Prop} (emits : Emits scene act post)
    (implies : ∀ value commands, post value commands → weaker value commands) : Emits scene act weaker := by
  intro events value after running
  obtain ⟨added, same, holds⟩ := emits events value after running
  exact ⟨added, same, implies value _ holds⟩

theorem Emits.bind {middle : α → List SignCommand → Prop} {post : β → List SignCommand → Prop}
    (first : Emits scene act middle)
    (rest : ∀ value commands, middle value commands →
      Emits scene (next value) fun last more => post last (commands ++ more)) :
    Emits scene (act >>= next) post := by
  intro events last after running
  obtain ⟨value, between, started, running⟩ := Act.exists_of_run_bind_ok running
  obtain ⟨added, rfl, reached⟩ := first events value between started
  obtain ⟨more, rfl, holds⟩ := rest value _ reached (events ++ added) last after running
  refine ⟨added ++ more, by rw [List.append_assoc], ?_⟩
  rw [signCommands_append]
  exact holds

theorem Emits.of_lift {σ : Type} {post : α → List SignCommand → Prop} (emits : Emits scene act post) {rest : σ}
    {events : List Event} {value : α} {ended : σ × Workspace}
    (done : (liftM act : Act (σ × Workspace) α).run.run (rest, { scene with events }) = (.ok value, ended)) :
    ∃ added, ended = (rest, { scene with events := events ++ added }) ∧ post value (signCommands added) := by
  obtain ⟨later, running, same⟩ := Act.exists_of_run_lift_ok done
  obtain ⟨added, isLater, holds⟩ := emits events value later running
  exact ⟨added, by rw [same, isLater], holds⟩

theorem emits_pure {post : α → List SignCommand → Prop} {value : α} (holds : post value []) :
    Emits scene (pure value) post := by
  intro events other after running
  cases running
  exact ⟨[], by simp, holds⟩

/-- An act without commands for signs only has its value to pass on. -/
theorem Emits.bind_silent {fact : α → Prop} {post : β → List SignCommand → Prop}
    (first : Emits scene act fun value commands => commands = [] ∧ fact value)
    (rest : ∀ value, fact value → Emits scene (next value) post) : Emits scene (act >>= next) post :=
  first.bind fun value _ reached => by
    rw [reached.1]
    exact rest value reached.2

theorem emits_lift_bind {post : β → List SignCommand → Prop} {result : Except Fault α}
    (rest : ∀ value, result = .ok value → Emits scene (next value) post) : Emits scene (liftM result >>= next) post := by
  refine Emits.bind_silent ?_ rest
  intro events value after running
  cases running
  exact ⟨[], by simp, rfl, rfl⟩

theorem emits_get_bind {post : β → List SignCommand → Prop} {next : Workspace → Act Workspace β}
    (rest : ∀ events, Emits scene (next { scene with events }) post) : Emits scene (get >>= next) post := by
  intro events value after running
  exact rest events events value after running

theorem emits_evaluateInt (expression : String) :
    Emits scene (evaluateInt expression) fun number commands =>
      commands = [] ∧ intAnswerTo scene expression = .ok number := by
  intro events number after running
  rw [run_evaluateInt] at running
  obtain ⟨answered, same⟩ := Prod.mk.inj running
  exact ⟨[.evaluate expression], same.symm, rfl, answered⟩

theorem emits_command (command : SignCommand) :
    Emits scene (Editor.command command.text) fun _ commands => commands = [command] := by
  intro events value after running
  cases running
  exact ⟨[.command command.text], rfl, signCommands_text command⟩

/-- What holds for the items so far holds for all of them in the end. -/
theorem emits_foldlM {step : β → α → Act Workspace β} (invariant : List α → β → List SignCommand → Prop)
    (steps : ∀ done item state commands, invariant done state commands →
      Emits scene (step state item) fun later more => invariant (done ++ [item]) later (commands ++ more))
    (items : List α) {start : β} (starts : invariant [] start []) :
    Emits scene (items.foldlM step start) (invariant items) := by
  have going : ∀ rest done state commands, invariant done state commands →
      Emits scene (rest.foldlM step state) fun later more => invariant (done ++ rest) later (commands ++ more) := by
    intro rest
    induction rest with
    | nil =>
        intro done state commands holds
        exact emits_pure (by simpa using holds)
    | cons item rest ih =>
        intro done state commands holds
        rw [List.foldlM_cons]
        refine (steps done item state commands holds).bind fun middle more reached => ?_
        refine (ih (done ++ [item]) middle (commands ++ more) reached).imp fun later others final => ?_
        simpa using final
  exact going items [] start [] starts

theorem emits_bufferNumber (path : Value) :
    Emits scene (bufferNumber path true) fun number commands => commands = [] ∧ bufferOf scene path = .ok number := by
  refine emits_lift_bind fun text isText => emits_get_bind fun events => ?_
  unfold bufferOf
  rw [isText]
  exact emits_evaluateInt _

theorem emits_isVisible (buffer : Int) :
    Emits scene (isVisible buffer) fun isShown commands => commands = [] ∧ isShown = shows scene buffer := by
  unfold isVisible shows
  split
  · next negative => exact emits_pure ⟨rfl, by simp [negative]⟩
  · next notNegative =>
      refine (emits_evaluateInt _).bind_silent fun window found => emits_pure ⟨rfl, ?_⟩
      rw [found, decide_eq_true (Int.not_lt.mp notNegative)]
      rfl

theorem emits_unplaceSigns (buffer : Int) :
    Emits scene (unplaceSigns buffer) fun _ commands => commands = if 0 ≤ buffer then [.unplaceAll buffer] else [] := by
  unfold unplaceSigns
  split
  · exact emits_command _
  · exact emits_pure rfl

theorem emits_buffer :
    Emits scene Editor.buffer fun found commands => commands = [] ∧ currentNumber scene = .ok found.number := by
  refine emits_get_bind fun events => ?_
  intro events found after running
  rw [Act.run_lift_except] at running
  obtain ⟨isFound, same⟩ := Prod.mk.inj running
  refine ⟨[], by simpa using same.symm, rfl, ?_⟩
  unfold currentNumber
  rw [isFound]
  rfl

end Emits

section Succeeds

variable {scene : Workspace} {act : Act Workspace α} {next : α → Act Workspace β}

/-- An act succeeds in a scene, whatever has happened there before, and only adds events. -/
def Succeeds (scene : Workspace) (act : Act Workspace α) : Prop :=
  ∀ events, ∃ value added, act.run.run { scene with events } = (.ok value, { scene with events := events ++ added })

theorem Succeeds.emitting {post : α → List SignCommand → Prop} (succeeds : Succeeds scene act)
    (emits : Emits scene act post) (events : List Event) :
    ∃ value added, act.run.run { scene with events } = (.ok value, { scene with events := events ++ added }) ∧
      post value (signCommands added) := by
  obtain ⟨value, added, running⟩ := succeeds events
  obtain ⟨others, same, holds⟩ := emits events value _ running
  have sameAdded : added = others := List.append_cancel_left (congrArg Workspace.events same)
  rw [← sameAdded] at holds
  exact ⟨value, added, running, holds⟩

theorem Succeeds.bind_emitting {post : α → List SignCommand → Prop} (succeeds : Succeeds scene act)
    (emits : Emits scene act post) (rest : ∀ value commands, post value commands → Succeeds scene (next value)) :
    Succeeds scene (act >>= next) := by
  intro events
  obtain ⟨value, added, running, holds⟩ := succeeds.emitting emits events
  obtain ⟨last, more, finishing⟩ := rest value _ holds (events ++ added)
  refine ⟨last, added ++ more, ?_⟩
  rw [Act.run_bind_ok running, finishing, List.append_assoc]

theorem Succeeds.bind (succeeds : Succeeds scene act) (rest : ∀ value, Succeeds scene (next value)) :
    Succeeds scene (act >>= next) := by
  have adds : Emits scene act fun _ _ => True := by
    intro events value after running
    obtain ⟨_, added, again⟩ := succeeds events
    cases again.symm.trans running
    exact ⟨added, rfl, trivial⟩
  exact succeeds.bind_emitting adds fun value _ _ => rest value

theorem succeeds_pure (value : α) : Succeeds scene (pure value) := by
  intro events
  exact ⟨value, [], by rw [List.append_nil]; rfl⟩

theorem succeeds_command (text : String) : Succeeds scene (command text) := fun _ => ⟨(), [.command text], rfl⟩

theorem succeeds_lift {result : Except Fault α} {value : α} (isOk : result = .ok value) :
    Succeeds scene (liftM result) := by
  subst isOk
  exact succeeds_pure value

theorem succeeds_lift_bind {result : Except Fault α} {value : α} (isOk : result = .ok value)
    (rest : Succeeds scene (next value)) : Succeeds scene (liftM result >>= next) := by
  subst isOk
  exact rest

theorem succeeds_get_bind {next : Workspace → Act Workspace β}
    (rest : ∀ events, Succeeds scene (next { scene with events })) : Succeeds scene (get >>= next) := by
  intro events
  exact rest events events

theorem succeeds_evaluateInt {expression : String} {number : Int} (answered : intAnswerTo scene expression = .ok number) :
    Succeeds scene (evaluateInt expression) := by
  intro events
  rw [run_evaluateInt]
  exact ⟨number, [.evaluate expression], Prod.ext answered rfl⟩

theorem succeeds_foldlM {step : β → α → Act Workspace β} {items : List α}
    (steps : ∀ item ∈ items, ∀ state, Succeeds scene (step state item)) (start : β) :
    Succeeds scene (items.foldlM step start) := by
  induction items generalizing start with
  | nil => exact succeeds_pure start
  | cons item items ih =>
      obtain ⟨first, later⟩ := List.forall_mem_cons.mp steps
      rw [List.foldlM_cons]
      exact (first start).bind fun state => ih later state

theorem succeeds_bufferNumber {path : Value} {number : Int} (known : bufferOf scene path = .ok number) :
    Succeeds scene (bufferNumber path true) := by
  obtain ⟨text, isText, answered⟩ := bind_eq_ok_iff.mp known
  apply succeeds_lift_bind isText
  exact succeeds_get_bind fun _ => succeeds_evaluateInt answered

theorem succeeds_isVisible {buffer window : Int}
    (answered : intAnswerTo scene ("bufwinnr(" ++ toString buffer ++ ")") = .ok window) :
    Succeeds scene (isVisible buffer) := by
  unfold isVisible
  split
  · exact succeeds_pure _
  · exact (succeeds_evaluateInt answered).bind fun _ => succeeds_pure _

theorem succeeds_unplaceSigns (buffer : Int) : Succeeds scene (unplaceSigns buffer) := by
  unfold unplaceSigns
  split
  · exact succeeds_command _
  · exact succeeds_pure _

theorem succeeds_buffer {current : Int} (known : currentNumber scene = .ok current) : Succeeds scene Editor.buffer := by
  obtain ⟨found, isFound, _⟩ := bind_eq_ok_iff.mp known
  exact succeeds_get_bind fun _ => succeeds_lift isFound

end Succeeds

end Editor

namespace Client.Diagnostics

open Editor

/-- Where a diagnostic is: the buffer of its file and its line, counted from 1. -/
def spotAt (workspace : Workspace) (diagnostic : Value) : Except Fault Spot := do
  let location ← diagnostic.field "location"
  let buffer ← bufferOf workspace (← location.field "filepath")
  let line ← (← (← location.field "line_num").plus (.int 1)).asInt
  return ⟨buffer, line, diagnostic⟩

def spotsIn (workspace : Workspace) (diagnostics : Value) : Except Fault (List Spot) := do
  (← diagnostics.elements).mapM (spotAt workspace)

/-- The mark for a diagnostic. -/
def Spot.mark (spot : Spot) : Mark := ⟨spot.line, (isError spot.diagnostic).toOption.getD false⟩

/-- What a buffer shows after the groups have been gone through, of which those that are not shown are left alone. -/
def redrawn (workspace : Workspace) (groups : Groups) (buffer : Int) (shown : List Mark) : List Mark :=
  groups.foldl (fun shown entry =>
    if buffer = entry.1 ∧ shows workspace entry.1 then (spotsOf entry.1 entry.2).map Spot.mark else shown) shown

variable {scene : Workspace}

theorem emits_place (groups : Groups) (diagnostic : Value) :
    Emits scene (place groups diagnostic) fun later commands =>
      commands = [] ∧ ∃ spot, spotAt scene diagnostic = .ok spot ∧ later = insertSpot groups spot := by
  refine emits_lift_bind fun location isLocation => emits_lift_bind fun path isPath => ?_
  refine (emits_bufferNumber path).bind_silent fun buffer isBuffer => ?_
  refine emits_lift_bind fun number isNumber => emits_lift_bind fun sum isSum => emits_lift_bind fun line isLine => ?_
  refine emits_pure ⟨rfl, ⟨buffer, line, diagnostic⟩, ?_, rfl⟩
  simp only [spotAt, isLocation, isPath, isBuffer, isNumber, isSum, isLine, bind, Except.bind, pure, Except.pure]

theorem emits_foldlM_place (items : List Value) :
    Emits scene (items.foldlM place []) fun groups commands =>
      commands = [] ∧ ∃ found, items.mapM (spotAt scene) = .ok found ∧ groups = found.foldl insertSpot [] := by
  let placed : List Value → Groups → List SignCommand → Prop := fun done groups commands =>
    commands = [] ∧ ∃ found, done.mapM (spotAt scene) = .ok found ∧ groups = found.foldl insertSpot []
  refine emits_foldlM placed ?_ items ⟨rfl, [], rfl, rfl⟩
  intro done item groups commands ⟨silent, found, read, made⟩
  refine (emits_place groups item).imp fun later more reached => ?_
  obtain ⟨still, spot, isSpot, inserted⟩ := reached
  refine ⟨by rw [silent, still, List.append_nil], found ++ [spot], ?_, by simp [inserted, made]⟩
  exact mapM_eq_ok_iff.mpr (List.rel_append (mapM_eq_ok_iff.mp read) (.cons isSpot .nil))

theorem emits_grouped (diagnostics : Value) :
    Emits scene (grouped diagnostics) fun groups commands =>
      commands = [] ∧ ∃ found, spotsIn scene diagnostics = .ok found ∧
        sortedGroups (found.foldl insertSpot []) = .ok groups := by
  refine emits_lift_bind fun items areItems => ?_
  refine (emits_foldlM_place items).bind_silent fun groups reached => ?_
  obtain ⟨found, read, made⟩ := reached
  intro events shown after running
  rw [Act.run_lift_except] at running
  obtain ⟨isSorted, same⟩ := Prod.mk.inj running
  refine ⟨[], by simpa using same.symm, rfl, found, ?_, by rw [← made, isSorted]⟩
  simp only [spotsIn, areItems]
  exact read

theorem emits_placeSigns (buffer line : Int) (next : Nat) (diagnostics : List Value) :
    Emits scene (placeSigns buffer line next diagnostics) fun later commands =>
      Draws next later commands fun other shown =>
        if other = buffer then shown ++ diagnostics.map fun found => Spot.mark ⟨buffer, line, found⟩ else shown := by
  let placed : List Value → Nat → List SignCommand → Prop := fun done later commands =>
    Draws next later commands fun other shown =>
      if other = buffer then shown ++ done.map fun found => Spot.mark ⟨buffer, line, found⟩ else shown
  refine emits_foldlM placed ?_ diagnostics ((draws_nil next).congr (by simp))
  intro done diagnostic later commands draws
  refine emits_lift_bind fun isError known => ?_
  refine (emits_command (.place later line buffer isError)).bind fun _ more placing => emits_pure ?_
  have marked : Spot.mark ⟨buffer, line, diagnostic⟩ = ⟨line, isError⟩ := by
    unfold Spot.mark
    rw [known]
    rfl
  rw [placing, List.append_nil]
  refine (draws.append (draws_place later line buffer isError)).congr fun other shown => ?_
  by_cases same : other = buffer <;> simp [same, marked]

theorem emits_renewSigns (buffer : Int) (lines : Lines) (next : Nat) :
    Emits scene (renewSigns buffer lines next) fun later commands =>
      Draws next later commands fun other shown =>
        if other = buffer ∧ shows scene buffer then (spotsOf buffer lines).map Spot.mark else shown := by
  unfold renewSigns
  refine (emits_isVisible buffer).bind_silent fun isShown known => ?_
  subst known
  cases isShown : shows scene buffer with
  | false => exact emits_pure ((draws_nil next).congr (by simp))
  | true =>
      have notNegative : 0 ≤ buffer := by
        simp only [shows, Bool.and_eq_true, decide_eq_true_eq] at isShown
        exact isShown.1
      refine (emits_unplaceSigns buffer).bind fun _ commands cleared => ?_
      let placed : Lines → Nat → List SignCommand → Prop := fun done later more =>
        Draws next later (commands ++ more) fun other shown =>
          if other = buffer then (spotsOf buffer done).map Spot.mark else shown
      have starts : placed [] next [] := by
        rw [if_pos notNegative] at cleared
        subst cleared
        exact draws_unplaceAll next buffer
      refine (emits_foldlM placed ?_ lines starts).imp fun later more draws => draws.congr (by simp)
      intro done entry later more draws
      refine (emits_placeSigns buffer entry.1 later entry.2).imp fun last others placing => ?_
      have both := (draws.append placing)
      rw [List.append_assoc] at both
      refine both.congr fun other shown => ?_
      by_cases same : other = buffer <;> simp [same, spotsOf]

theorem emits_updateSigns (groups : Groups) (next : Nat) :
    Emits scene (updateSigns groups next) fun later commands =>
      ∃ current, currentNumber scene = .ok current ∧
        Draws next later commands fun buffer shown =>
          redrawn scene groups buffer (if buffer = current ∧ 0 ≤ current then [] else shown) := by
  unfold updateSigns
  refine emits_buffer.bind_silent fun found isCurrent => ?_
  refine (emits_unplaceSigns found.number).bind fun _ commands cleared => ?_
  let renewed : Groups → Nat → List SignCommand → Prop := fun done later more =>
    Draws next later (commands ++ more) fun buffer shown =>
      redrawn scene done buffer (if buffer = found.number ∧ 0 ≤ found.number then [] else shown)
  have starts : renewed [] next [] := by
    by_cases notNegative : 0 ≤ found.number
    · rw [if_pos notNegative] at cleared
      subst cleared
      exact (draws_unplaceAll next found.number).congr (by simp [redrawn, notNegative])
    · rw [if_neg notNegative] at cleared
      subst cleared
      exact (draws_nil next).congr (by simp [redrawn, notNegative])
  refine (emits_foldlM renewed ?_ groups starts).imp fun later more draws => ⟨found.number, isCurrent, draws⟩
  intro done entry later more draws
  refine (emits_renewSigns entry.1 entry.2 later).imp fun last others renewing => ?_
  have both := draws.append renewing
  rw [List.append_assoc] at both
  refine both.congr fun buffer shown => ?_
  simp [redrawn]

section Succeeds

theorem succeeds_place {diagnostic : Value} {spot : Spot} (isSpot : spotAt scene diagnostic = .ok spot)
    (groups : Groups) : Succeeds scene (place groups diagnostic) := by
  obtain ⟨location, isLocation, isSpot⟩ := bind_eq_ok_iff.mp isSpot
  obtain ⟨path, isPath, isSpot⟩ := bind_eq_ok_iff.mp isSpot
  obtain ⟨buffer, isBuffer, isSpot⟩ := bind_eq_ok_iff.mp isSpot
  obtain ⟨number, isNumber, isSpot⟩ := bind_eq_ok_iff.mp isSpot
  obtain ⟨sum, isSum, isSpot⟩ := bind_eq_ok_iff.mp isSpot
  obtain ⟨line, isLine, _⟩ := bind_eq_ok_iff.mp isSpot
  apply succeeds_lift_bind isLocation
  apply succeeds_lift_bind isPath
  apply (succeeds_bufferNumber isBuffer).bind
  intro _
  apply succeeds_lift_bind isNumber
  apply succeeds_lift_bind isSum
  apply succeeds_lift_bind isLine
  exact succeeds_pure _

theorem succeeds_grouped {diagnostics : Value} {found : List Spot} {groups : Groups}
    (read : spotsIn scene diagnostics = .ok found) (isSorted : sortedGroups (found.foldl insertSpot []) = .ok groups) :
    Succeeds scene (grouped diagnostics) := by
  obtain ⟨items, areItems, read⟩ := bind_eq_ok_iff.mp read
  apply succeeds_lift_bind areItems
  have places : Succeeds scene (items.foldlM place []) := by
    apply succeeds_foldlM
    intro item member
    obtain ⟨spot, isSpot⟩ := exists_read_of_mapM_ok read member
    exact succeeds_place isSpot
  apply places.bind_emitting (emits_foldlM_place items)
  intro placed _ ⟨_, others, again, made⟩
  cases read.symm.trans again
  rw [made]
  exact succeeds_lift isSorted

theorem succeeds_placeSigns {diagnostics : List Value} (kinds : ∀ diagnostic ∈ diagnostics, HasKind diagnostic)
    (buffer line : Int) (next : Nat) : Succeeds scene (placeSigns buffer line next diagnostics) := by
  apply succeeds_foldlM
  intro diagnostic member later
  obtain ⟨kind, hasKind⟩ := kinds diagnostic member
  have known : isError diagnostic = .ok (kind.same (.text "E")) := bind_eq_ok_iff.mpr ⟨kind, hasKind, rfl⟩
  apply succeeds_lift_bind known
  exact (succeeds_command _).bind fun _ => succeeds_pure _

theorem succeeds_renewSigns {buffer window : Int} {lines : Lines}
    (answered : intAnswerTo scene ("bufwinnr(" ++ toString buffer ++ ")") = .ok window)
    (kinds : ∀ spot ∈ spotsOf buffer lines, HasKind spot.diagnostic) (next : Nat) :
    Succeeds scene (renewSigns buffer lines next) := by
  apply (succeeds_isVisible answered).bind
  intro isShown
  split
  · exact succeeds_pure _
  · apply (succeeds_unplaceSigns buffer).bind
    intro _
    apply succeeds_foldlM
    intro entry member later
    apply succeeds_placeSigns
    intro diagnostic listed
    exact kinds ⟨buffer, entry.1, diagnostic⟩ (List.mem_flatMap.mpr ⟨entry, member, List.mem_map_of_mem listed⟩)

theorem succeeds_updateSigns {groups : Groups} {current : Int} (known : currentNumber scene = .ok current)
    (answered : ∀ entry ∈ groups, ∃ window, intAnswerTo scene ("bufwinnr(" ++ toString entry.1 ++ ")") = .ok window)
    (kinds : ∀ spot ∈ spots groups, HasKind spot.diagnostic) (next : Nat) :
    Succeeds scene (updateSigns groups next) := by
  apply (succeeds_buffer known).bind
  intro found
  apply (succeeds_unplaceSigns found.number).bind
  intro _
  apply succeeds_foldlM
  intro entry member later
  obtain ⟨window, isWindow⟩ := answered entry member
  apply succeeds_renewSigns isWindow
  intro spot listed
  exact kinds spot (List.mem_flatMap.mpr ⟨entry, member, listed⟩)

end Succeeds

/-- A buffer that is shown and has a group shows that group afterwards, and every other buffer what it showed before. -/
theorem redrawn_eq {groups : Groups} (distinct : (groups.map (·.1)).Nodup) (buffer : Int) (shown : List Mark) :
    redrawn scene groups buffer shown =
      if shows scene buffer ∧ buffer ∈ groups.map (·.1) then ((spots groups).filter (·.buffer = buffer)).map Spot.mark
      else shown := by
  induction groups generalizing shown with
  | nil => simp [redrawn]
  | cons entry rest ih =>
      obtain ⟨first, lines⟩ := entry
      obtain ⟨absent, restDistinct⟩ := List.nodup_cons.mp distinct
      have step : redrawn scene ((first, lines) :: rest) buffer shown = redrawn scene rest buffer
          (if buffer = first ∧ shows scene first then (spotsOf first lines).map Spot.mark else shown) := rfl
      rw [step, ih restDistinct, filter_spots_cons]
      by_cases same : buffer = first
      · subst same
        have notLater : ¬ (shows scene buffer ∧ buffer ∈ rest.map (·.1)) := fun both => absent both.2
        rw [if_neg notLater, filter_spotsOf_self, filter_spots_of_absent absent, List.append_nil]
        simp
      · have notFirst : ¬ (buffer = first ∧ shows scene first = true) := fun both => same both.1
        rw [if_neg notFirst, filter_spotsOf_other same, List.nil_append]
        simp only [List.map_cons, List.mem_cons, or_iff_right same]

end Client.Diagnostics

end Typeahead

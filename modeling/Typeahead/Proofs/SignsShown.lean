import Typeahead.Proofs.EditorFrames
import Typeahead.Proofs.SignUpdates
import Typeahead.Proofs.Since

namespace Typeahead

/-! The signs on the screen after updates of the diagnostics. Each update clears the current buffer, and renews those
buffers that are shown and have one of the new diagnostics. What it does besides the signs gives no command for
signs. -/

namespace Editor

/-- Events are added, but no commands for signs. -/
def Silent (before after : Workspace) : Prop :=
  ∃ added, after = { before with events := before.events ++ added } ∧ signCommands added = []

instance : AllowsAsking Silent where
  refl workspace := ⟨[], by simp, rfl⟩
  trans := by
    intro first second third before after
    obtain ⟨added, isSecond, noCommands⟩ := before
    obtain ⟨more, isThird, noOthers⟩ := after
    subst isSecond
    exact ⟨added ++ more, by simpa using isThird, by rw [signCommands_append, noCommands, noOthers, List.append_nil]⟩
  asked _ expression := ⟨[.evaluate expression], rfl, rfl⟩

end Editor

namespace Client.Diagnostics

open Act Editor

section Spares

/-- The numbers of the signs and the options are left as they are, and no command for signs is given. -/
def SparesSigns (before after : Diagnostics × Workspace) : Prop :=
  Silent before.2 after.2 ∧ after.1.nextSign = before.1.nextSign ∧ after.1.options = before.1.options

instance : Chains SparesSigns where
  refl _ := ⟨Chains.refl _, rfl, rfl⟩
  trans first second := ⟨Chains.trans first.1 second.1, second.2.1.trans first.2.1, second.2.2.trans first.2.2⟩

theorem spares_lift {α : Type} {act : Act Workspace α} (silent : act.Keeps Silent) :
    (liftM act : Doing α).Keeps SparesSigns :=
  fun state => ⟨silent state.2, rfl, rfl⟩

theorem spares_option (key : String) : (option key).Keeps SparesSigns := by
  refine keeps_get.bind fun state => ?_
  cases state.1.options.lookup key with
  | some value => exact keeps_pure value
  | none => exact keeps_throw _

theorem spares_updateHighlights : updateHighlights.Keeps SparesSigns := by
  refine (spares_lift keeps_clearHighlights).bind fun _ => (spares_lift keeps_buffer).bind fun _ => ?_
  have grouping (groups : Groups → Groups) :
      (change fun state => { state with groups := groups state.groups }).Keeps SparesSigns :=
    fun state => ⟨Chains.refl _, rfl, rfl⟩
  refine (grouping _).bind fun _ => keeps_get.bind fun state => ?_
  refine (keeps_forIn (fun entry _ => ?_) _ _).bind fun _ => keeps_pure _
  refine (keeps_forIn (fun diagnostic _ => ?_) _ _).bind fun _ => keeps_pure _
  exact (spares_lift (keeps_highlightDiagnostic diagnostic)).bind fun _ => keeps_pure _

/-- What an update does besides the signs. -/
theorem spares_highlights_and_list (diagnostics : Value) : (do
    if (← option "enable_diagnostic_highlighting").isPresent then updateHighlights
    if (← option "always_populate_location_list").isPresent then
      setLocationList (← (locationItems diagnostics : Act Workspace Value)) : Doing Unit).Keeps SparesSigns := by
  have listing : (do
      if (← option "always_populate_location_list").isPresent then
        setLocationList (← (locationItems diagnostics : Act Workspace Value)) : Doing Unit).Keeps SparesSigns := by
    refine (spares_option _).bind fun wanted => ?_
    split
    · exact (spares_lift (keeps_locationItems _)).bind fun items => spares_lift (keeps_setLocationList items)
    · exact keeps_pure _
  refine (spares_option _).bind fun wanted => ?_
  dsimp only
  split
  · exact spares_updateHighlights.bind fun _ => listing
  · exact listing

end Spares

theorem run_option {key : String} {value : Value} {state : Diagnostics} (given : state.options.lookup key = some value)
    (workspace : Workspace) : (option key).run.run (state, workspace) = (.ok value, state, workspace) := by
  unfold option
  refine (run_bind_ok rfl).trans ?_
  dsimp only
  rw [given]
  rfl

/-- An update with signs redraws the current buffer and those that it names. -/
theorem draws_of_update {diagnostics flag : Value} {state later : Diagnostics} {workspace after : Workspace}
    (given : state.options.lookup "enable_diagnostic_signs" = some flag) (enabled : flag.isPresent = true)
    (done : (update diagnostics).run.run (state, workspace) = (.ok (), later, after)) :
    later.options = state.options ∧ ∃ found groups current added, spotsIn workspace diagnostics = .ok found ∧
      sortedGroups (found.foldl insertSpot []) = .ok groups ∧ currentNumber workspace = .ok current ∧
      after = { workspace with events := workspace.events ++ added } ∧
      Draws state.nextSign later.nextSign (signCommands added) fun buffer shown =>
        redrawn workspace groups buffer (if buffer = current ∧ 0 ≤ current then [] else shown) := by
  obtain ⟨groups, _, grouping, done⟩ := exists_of_run_bind_ok done
  obtain ⟨asked, rfl, silent, found, read, isSorted⟩ :=
    (emits_grouped diagnostics : Emits workspace _ _).of_lift grouping
  obtain ⟨_, _, changed, done⟩ := exists_of_run_bind_ok done
  cases changed
  -- the option for signs has been given, and turns them on
  obtain ⟨wanted, _, chosen, done⟩ := exists_of_run_bind_ok done
  have isFlag := run_option (show ({ state with groups } : Diagnostics).options.lookup _ = some flag from given)
    { workspace with events := workspace.events ++ asked }
  cases isFlag.symm.trans chosen
  dsimp only at done
  rw [if_pos enabled] at done
  obtain ⟨_, _, looked, done⟩ := exists_of_run_bind_ok done
  cases looked
  obtain ⟨nextSign, _, signing, done⟩ := exists_of_run_bind_ok done
  obtain ⟨signed, rfl, current, isCurrent, draws⟩ :=
    (emits_updateSigns groups state.nextSign : Emits workspace _ _).of_lift signing
  obtain ⟨_, _, numbered, done⟩ := exists_of_run_bind_ok done
  cases numbered
  -- what comes behind the signs leaves them alone
  have kept := spares_highlights_and_list diagnostics
    ({ state with groups, nextSign }, { workspace with events := workspace.events ++ asked ++ signed })
  have rest : SparesSigns _ (later, after) := Eq.mp (congrArg (SparesSigns _) (congrArg Prod.snd done)) kept
  obtain ⟨⟨more, isAfter, noSigns⟩, sameNext, sameOptions⟩ := rest
  dsimp only at isAfter sameNext sameOptions
  refine ⟨sameOptions, found, groups, current, asked ++ (signed ++ more), read, isSorted, isCurrent, ?_, ?_⟩
  · rw [isAfter]
    simp
  · rw [signCommands_append, signCommands_append, silent, noSigns, List.nil_append, List.append_nil, sameNext]
    exact draws

section Marks

/-- The marks that diagnostics call for, each with its buffer. -/
def markedIn (workspace : Workspace) (diagnostics : Value) : Except Fault (List (Int × Mark)) := do
  (← spotsIn workspace diagnostics).mapM fun spot => do
    return (spot.buffer, ⟨spot.line, ← isError spot.diagnostic⟩)

/-- Of marks with their buffers, those of one buffer. -/
def marksFor (marked : List (Int × Mark)) (buffer : Int) : List Mark := (marked.filter (·.1 = buffer)).map (·.2)

theorem markedIn_eq {workspace : Workspace} {diagnostics : Value} {found : List Spot}
    (read : spotsIn workspace diagnostics = .ok found) (kinds : ∀ spot ∈ found, HasKind spot.diagnostic) :
    markedIn workspace diagnostics = .ok (found.map fun spot => (spot.buffer, spot.mark)) := by
  unfold markedIn
  rw [read]
  refine mapM_eq_ok_iff.mpr ?_
  rw [List.forall₂_map_right_iff, List.forall₂_same]
  intro spot member
  obtain ⟨kind, known⟩ := kinds spot member
  simp only [isError, Spot.mark, known]
  rfl

theorem marksFor_map (found : List Spot) (buffer : Int) :
    marksFor (found.map fun spot => (spot.buffer, spot.mark)) buffer =
      (found.filter (·.buffer = buffer)).map Spot.mark := by
  simp [marksFor, List.filter_map, Function.comp_def]

end Marks

/-- Diagnostics that arrive, and the workspace at that time. -/
structure Update where
  diagnostics : Value
  workspace : Workspace

/-- The diagnostics as they are kept, and the signs that the editor has. -/
structure Screen where
  state : Diagnostics
  signs : Signs

namespace Update

def run (update : Update) (state : Diagnostics) : Except Fault Unit × Diagnostics × Workspace :=
  (Diagnostics.update update.diagnostics).run.run (state, update.workspace)

/-- Takes over the diagnostics, and lets the editor carry out the commands for signs that this gives. -/
def perform (update : Update) (screen : Screen) : Screen :=
  let (_, state, after) := update.run screen.state
  ⟨state, carryOut (signCommands (after.events.drop update.workspace.events.length)) screen.signs⟩

def Succeeds (update : Update) (screen : Screen) : Prop := (update.run screen.state).1 = .ok ()

def marked (update : Update) : Except Fault (List (Int × Mark)) := markedIn update.workspace update.diagnostics

def Shows (update : Update) (buffer : Int) : Prop := shows update.workspace buffer = true

def IsCurrent (update : Update) (buffer : Int) : Prop := currentNumber update.workspace = .ok buffer

/-- One of the diagnostics is in the buffer. -/
def Names (update : Update) (buffer : Int) : Prop :=
  ∃ marked, update.marked = .ok marked ∧ ∃ entry ∈ marked, entry.1 = buffer

/-- What an update does to the signs of each buffer, given the marks that it calls for. -/
structure Redraws (update : Update) (marked : List (Int × Mark)) (before after : Signs) : Prop where
  renews : ∀ buffer, update.Shows buffer → update.Names buffer → (marksIn after buffer).Perm (marksFor marked buffer)
  clears : ∀ buffer, 0 ≤ buffer → update.IsCurrent buffer → ¬ (update.Shows buffer ∧ update.Names buffer) →
    marksIn after buffer = []
  leaves : ∀ buffer, ¬ update.IsCurrent buffer → ¬ (update.Shows buffer ∧ update.Names buffer) →
    marksIn after buffer = marksIn before buffer

theorem redraws_of_succeeds {update : Update} {screen : Screen} {flag : Value}
    (given : screen.state.options.lookup "enable_diagnostic_signs" = some flag) (enabled : flag.isPresent = true)
    (below : Below screen.state.nextSign screen.signs) (succeeds : update.Succeeds screen) :
    (update.perform screen).state.options = screen.state.options ∧
      Below (update.perform screen).state.nextSign (update.perform screen).signs ∧
      ∃ marked, update.marked = .ok marked ∧ update.Redraws marked screen.signs (update.perform screen).signs := by
  rcases running : update.run screen.state with ⟨result, later, after⟩
  unfold Succeeds at succeeds
  rw [running] at succeeds
  cases succeeds
  obtain ⟨sameOptions, found, groups, current, added, read, isSorted, isCurrent, isAfter, draws⟩ :=
    draws_of_update given enabled running
  have performed : update.perform screen = ⟨later, carryOut (signCommands added) screen.signs⟩ := by
    unfold perform
    rw [running, isAfter]
    simp
  obtain ⟨distinct, isKey, moved, kinds⟩ := groups_of_sorted isSorted
  have marked : update.marked = .ok (found.map fun spot => (spot.buffer, spot.mark)) := markedIn_eq read kinds
  have named (buffer : Int) : update.Names buffer ↔ buffer ∈ groups.map (·.1) := by
    rw [isKey, Names, marked]
    simp
  have shown (buffer : Int) := (draws.marks screen.signs below buffer).trans (redrawn_eq distinct buffer _)
  rw [performed]
  refine ⟨sameOptions, draws.below _ below, _, marked, ?_, ?_, ?_⟩
  · intro buffer isShown isNamed
    rw [shown, if_pos ⟨isShown, (named buffer).mp isNamed⟩, marksFor_map]
    exact (moved.filter _).map _
  · intro buffer notNegative here notRenewed
    rw [IsCurrent, isCurrent] at here
    cases here
    rw [named, Shows] at notRenewed
    rw [shown, if_neg notRenewed, if_pos ⟨rfl, notNegative⟩]
  · intro buffer elsewhere notRenewed
    rw [IsCurrent, isCurrent] at elsewhere
    rw [named, Shows] at notRenewed
    rw [shown, if_neg notRenewed, if_neg fun both => elsewhere (by rw [both.1])]

end Update

section Runs

variable {options : Value.Fields} {flag : Value}

/-- The screen after updates, one after another, where there are no signs at first. -/
def screenAfter (options : Value.Fields) (updates : List Update) : Screen :=
  updates.foldl (fun screen update => update.perform screen) ⟨{ options }, fun _ => []⟩

def AllSucceed (options : Value.Fields) (updates : List Update) : Prop :=
  ∀ earlier update later, updates = earlier ++ update :: later → update.Succeeds (screenAfter options earlier)

/-- An update has marked a buffer that was shown, and since then none has been made with the buffer as the current one,
or named it while it was shown. -/
def StillMarked (options : Value.Fields) (updates : List Update) (buffer : Int) : Prop :=
  Since (fun screen update => update.perform screen) (fun update _ => update.Shows buffer ∧ update.Names buffer)
    (fun update _ => update.IsCurrent buffer ∨ update.Shows buffer ∧ update.Names buffer)
    updates ⟨{ options }, fun _ => []⟩

theorem screenAfter_concat (options : Value.Fields) (updates : List Update) (last : Update) :
    screenAfter options (updates ++ [last]) = last.perform (screenAfter options updates) := by
  simp [screenAfter]

theorem allSucceed_nil (options : Value.Fields) : AllSucceed options [] := by
  intro earlier update later cut
  simp at cut

theorem AllSucceed.concat {updates : List Update} {last : Update} (succeed : AllSucceed options updates)
    (succeeds : last.Succeeds (screenAfter options updates)) : AllSucceed options (updates ++ [last]) := by
  intro earlier update later cut
  cases later using List.reverseRecOn with
  | nil =>
      obtain ⟨rfl, same⟩ := List.append_inj' cut rfl
      cases same
      exact succeeds
  | append_singleton later final =>
      rw [← List.cons_append, ← List.append_assoc] at cut
      obtain ⟨rfl, _⟩ := List.append_inj' cut rfl
      exact succeed earlier update later rfl

theorem AllSucceed.init {updates : List Update} {last : Update} (succeed : AllSucceed options (updates ++ [last])) :
    AllSucceed options updates := by
  intro earlier update later cut
  exact succeed earlier update (later ++ [last]) (by simp [cut])

theorem AllSucceed.last {updates : List Update} {last : Update} (succeed : AllSucceed options (updates ++ [last])) :
    last.Succeeds (screenAfter options updates) :=
  succeed updates last [] rfl

theorem options_and_numbers (given : options.lookup "enable_diagnostic_signs" = some flag)
    (enabled : flag.isPresent = true) {updates : List Update} (succeed : AllSucceed options updates) :
    (screenAfter options updates).state.options = options ∧
      Below (screenAfter options updates).state.nextSign (screenAfter options updates).signs := by
  induction updates using List.reverseRecOn with
  | nil => exact ⟨rfl, nofun⟩
  | append_singleton updates last ih =>
      obtain ⟨same, below⟩ := ih succeed.init
      obtain ⟨kept, belowAfter, _⟩ :=
        Update.redraws_of_succeeds (by rw [same]; exact given) enabled below succeed.last
      rw [screenAfter_concat]
      exact ⟨kept.trans same, belowAfter⟩

/-- The last of successful updates redraws what the earlier ones have left. -/
theorem redraws_last (given : options.lookup "enable_diagnostic_signs" = some flag) (enabled : flag.isPresent = true)
    (updates : List Update) (last : Update) (succeed : AllSucceed options (updates ++ [last])) :
    ∃ marked, last.marked = .ok marked ∧
      last.Redraws marked (screenAfter options updates).signs (screenAfter options (updates ++ [last])).signs := by
  obtain ⟨same, below⟩ := options_and_numbers given enabled succeed.init
  obtain ⟨_, _, redraws⟩ := Update.redraws_of_succeeds (by rw [same]; exact given) enabled below succeed.last
  rw [screenAfter_concat]
  exact redraws

theorem marksFor_ne_nil_iff {update : Update} {marked : List (Int × Mark)} (isMarked : update.marked = .ok marked)
    (buffer : Int) : marksFor marked buffer ≠ [] ↔ update.Names buffer := by
  simp only [marksFor, Update.Names, isMarked]
  simp

theorem marked_iff_stillMarked (given : options.lookup "enable_diagnostic_signs" = some flag)
    (enabled : flag.isPresent = true) {updates : List Update} (succeed : AllSucceed options updates) {buffer : Int}
    (notNegative : 0 ≤ buffer) :
    marksIn (screenAfter options updates).signs buffer ≠ [] ↔ StillMarked options updates buffer := by
  induction updates using List.reverseRecOn with
  | nil => exact iff_of_false (by simp [screenAfter, marksIn]) (not_since_nil _)
  | append_singleton updates last ih =>
      obtain ⟨marked, isMarked, redraws⟩ := redraws_last given enabled updates last succeed
      rw [StillMarked, since_concat_iff]
      by_cases renewed : last.Shows buffer ∧ last.Names buffer
      · have here := redraws.renews buffer renewed.1 renewed.2
        have someMark := (marksFor_ne_nil_iff isMarked buffer).mpr renewed.2
        refine iff_of_true (fun empty => someMark ?_) (Or.inl renewed)
        rw [empty] at here
        exact here.nil_eq.symm
      · by_cases current : last.IsCurrent buffer
        · rw [redraws.clears buffer notNegative current renewed]
          simp [renewed, current]
        · rw [redraws.leaves buffer current renewed, ih succeed.init]
          simp [renewed, current, StillMarked]

end Runs

/-- After updates with signs, each buffer that is shown has one sign for each of the latest diagnostics in it and no
other, unless it is neither the current one nor named by these, and marked still from an earlier update. -/
theorem signs_match_latest_iff {options : Value.Fields} {flag : Value}
    (given : options.lookup "enable_diagnostic_signs" = some flag) (enabled : flag.isPresent = true)
    (updates : List Update) (last : Update) (succeed : AllSucceed options (updates ++ [last])) :
    ∃ marked, last.marked = .ok marked ∧ ∀ buffer, last.Shows buffer →
      ((marksIn (screenAfter options (updates ++ [last])).signs buffer).Perm (marksFor marked buffer) ↔
        last.IsCurrent buffer ∨ last.Names buffer ∨ ¬ StillMarked options updates buffer) := by
  obtain ⟨marked, isMarked, redraws⟩ := redraws_last given enabled updates last succeed
  refine ⟨marked, isMarked, fun buffer isShown => ?_⟩
  have notNegative : 0 ≤ buffer := by
    simp only [Update.Shows, shows, Bool.and_eq_true, decide_eq_true_eq] at isShown
    exact isShown.1
  by_cases isNamed : last.Names buffer
  · exact iff_of_true (redraws.renews buffer isShown isNamed) (Or.inr (Or.inl isNamed))
  have notRenewed : ¬ (last.Shows buffer ∧ last.Names buffer) := fun both => isNamed both.2
  have nothingFor : marksFor marked buffer = [] := by
    by_contra someMark
    exact isNamed ((marksFor_ne_nil_iff isMarked buffer).mp someMark)
  rw [nothingFor, List.perm_nil]
  by_cases isCurrent : last.IsCurrent buffer
  · exact iff_of_true (redraws.clears buffer notNegative isCurrent notRenewed) (Or.inl isCurrent)
  · rw [redraws.leaves buffer isCurrent notRenewed, ← marked_iff_stillMarked given enabled succeed.init notNegative]
    simp [isCurrent, isNamed]

section TwoWindows

/-- An error in the second line of a file. -/
def errorIn (file : String) : Value :=
  .record [("location", .record [("filepath", .text file), ("line_num", .int 1), ("column_num", .int 0)]),
    ("kind", .text "E")]

/-- Two windows, of which the first shows the current buffer. -/
def twoWindows : Workspace :=
  { editor :=
      { buffers := [⟨"/one.cpp", 1, [""]⟩, ⟨"/two.cpp", 2, [""]⟩]
        answers := [("bufnr('/one.cpp'", .ok (.int 1)), ("bufnr('/two.cpp'", .ok (.int 2)),
          ("bufwinnr(1)", .ok (.int 1)), ("bufwinnr(2)", .ok (.int 2))] } }

def signsOnly : Value.Fields :=
  [("enable_diagnostic_signs", .bool true), ("enable_diagnostic_highlighting", .bool false),
    ("always_populate_location_list", .bool false)]

def erring : Update := ⟨.list [errorIn "/two.cpp"], twoWindows⟩

def mended : Update := ⟨.list [], twoWindows⟩

theorem allSucceed_erring : AllSucceed signsOnly [erring] := by
  have succeeds : erring.Succeeds (screenAfter signsOnly []) := Act.eq_ok_of_toOption (by decide +kernel)
  exact AllSucceed.concat (allSucceed_nil signsOnly) succeeds

theorem allSucceed_mended : AllSucceed signsOnly [erring, mended] := by
  have succeeds : mended.Succeeds (screenAfter signsOnly [erring]) := Act.eq_ok_of_toOption (by decide +kernel)
  exact allSucceed_erring.concat succeeds

theorem marked_erring : erring.marked = .ok [(2, ⟨2, true⟩)] := Act.eq_ok_of_toOption (by decide +kernel)

theorem shows_second : shows twoWindows 2 = true := by decide +kernel

/-- The sign of an error in the window beside the current one stays when the error is gone. -/
theorem marksIn_second_after_mended : marksIn (screenAfter signsOnly [erring, mended]).signs 2 = [⟨2, true⟩] := by
  have given : signsOnly.lookup "enable_diagnostic_signs" = some (.bool true) := rfl
  obtain ⟨marked, isMarked, drawn⟩ := redraws_last given rfl [] erring allSucceed_erring
  obtain ⟨_, _, kept⟩ := redraws_last given rfl [erring] mended allSucceed_mended
  have placed : marksIn (screenAfter signsOnly [erring]).signs 2 = [⟨2, true⟩] := by
    rw [marked_erring] at isMarked
    cases isMarked
    exact List.perm_singleton.mp (drawn.renews 2 shows_second ⟨_, marked_erring, _, List.mem_singleton_self _, rfl⟩)
  have elsewhere : ¬ mended.IsCurrent 2 := by
    intro here
    cases here
  have unnamed : ¬ mended.Names 2 := by
    intro ⟨_, isMarked, _, member, _⟩
    cases isMarked
    cases member
  rw [← placed]
  exact kept.leaves 2 elsewhere fun both => unnamed both.2

end TwoWindows

/-- The current buffer has no sign when the error is gone, but the one beside it has its old one, which is marked still. -/
theorem signs_match_latest_iff_mended :
    let signs := (screenAfter signsOnly [erring, mended]).signs
    signsOnly.lookup "enable_diagnostic_signs" = some (.bool true) ∧ AllSucceed signsOnly [erring, mended] ∧
      mended.marked = .ok [] ∧ mended.Shows 1 ∧ mended.Shows 2 ∧
      (marksIn signs 1).Perm (marksFor [] 1) ∧ ¬ (marksIn signs 2).Perm (marksFor [] 2) ∧
      StillMarked signsOnly [erring] 2 := by
  intro signs
  have shows_first : mended.Shows 1 := by
    have shown : shows twoWindows 1 = true := by decide +kernel
    exact shown
  have unlike : ¬ (marksIn signs 2).Perm (marksFor [] 2) := by
    intro alike
    rw [marksIn_second_after_mended] at alike
    cases alike.length_eq
  obtain ⟨marked, isMarked, matches_iff⟩ := signs_match_latest_iff rfl rfl [erring] mended allSucceed_mended
  cases isMarked
  have first := (matches_iff 1 shows_first).mpr (.inl rfl)
  have second := mt (matches_iff 2 shows_second).mpr unlike
  push Not at second
  exact ⟨rfl, allSucceed_mended, rfl, shows_first, shows_second, first, unlike, second.2.2⟩

/-- After the only error is gone, which was in the window beside the current one, its sign is still there. -/
theorem sign_left_of_mended_error :
    AllSucceed signsOnly [erring, mended] ∧ mended.marked = .ok [] ∧ mended.Shows 2 ∧
      marksIn (screenAfter signsOnly [erring, mended]).signs 2 = [⟨2, true⟩] :=
  ⟨allSucceed_mended, rfl, shows_second, marksIn_second_after_mended⟩

end Client.Diagnostics

end Typeahead

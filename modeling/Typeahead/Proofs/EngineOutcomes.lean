import Typeahead.Frontend.Engine
import Typeahead.Proofs.Acts
import Typeahead.Proofs.UnitEntries

namespace Typeahead

/-! What each operation of the engine for the C family does to the unit of its file, however the front end answers.
An operation leaves the file without a unit, or with a live one, or keeps a unit that was dead before. Only a lookup
that parses again may leave a unit that it has just ended, and it raises then. -/

/-- The name of a call to the compiler front end, where an event is one. -/
def Event.frontendCall? : Event → Option String
  | .frontend (name :: _) => some name
  | _ => none

def Workspace.frontendCalls (workspace : Workspace) : List String := workspace.events.filterMap Event.frontendCall?

namespace Frontend

variable {workspace : Workspace} {frontend : Frontend} {path : String}

/-- What parsing a file gives: a unit if both passes succeed. -/
def parsedUnit? (path : String) (flags : List String) (frontend : Frontend) : Option TranslationUnit :=
  if frontend.attemptParse.1 && frontend.attemptParse.2.attemptReparse.1 then
    some { path, flags, isLive := true, diagnostics := frontend.diagnostics }
  else none

/-- What the front end is asked for when a file is parsed. -/
def parsingCalls (frontend : Frontend) : List String :=
  "parse" :: if frontend.attemptParse.1 then ["reparse"] else []

theorem diagnostics_attempt (frontend : Frontend) (fails : Bool) :
    (frontend.attempt fails).2.diagnostics = frontend.diagnostics := by
  unfold attempt
  split <;> rfl

theorem run_attempting (attempt : Frontend → Bool × Frontend) (workspace : Workspace) :
    (attempting attempt).run.run workspace =
      (.ok (attempt (workspace.frontend.getD {})).1,
        { workspace with frontend := workspace.frontend.map fun _ => (attempt (workspace.frontend.getD {})).2 }) := rfl

theorem run_attempt (here : workspace.frontend = some frontend) (name : String) (rest : List String)
    (attempt : Frontend → Bool × Frontend) :
    ∃ after,
      (do Workspace.record (.frontend (name :: rest)); attempting attempt : Act Workspace Bool).run.run workspace =
        (.ok (attempt frontend).1, after) ∧
      after.frontend = some (attempt frontend).2 ∧ after.frontendCalls = workspace.frontendCalls ++ [name] := by
  let recorded : Workspace := { workspace with events := workspace.events ++ [.frontend (name :: rest)] }
  have recording : (Workspace.record (.frontend (name :: rest))).run.run workspace = (.ok (), recorded) := rfl
  refine ⟨{ recorded with frontend := some (attempt frontend).2 }, ?_, rfl, ?_⟩
  · rw [Act.run_bind_ok recording, run_attempting]
    simp only [recorded, here, Option.getD_some, Option.map_some]
  · simp [recorded, Workspace.frontendCalls, Event.frontendCall?]

theorem run_parse (here : workspace.frontend = some frontend) (path : String) (flags : List String)
    (unsaved : Unsaved) :
    ∃ after, (parse path flags unsaved).run.run workspace = (.ok frontend.attemptParse.1, after) ∧
      after.frontend = some frontend.attemptParse.2 ∧ after.frontendCalls = workspace.frontendCalls ++ ["parse"] :=
  run_attempt here "parse" _ attemptParse

theorem run_reparse (here : workspace.frontend = some frontend) (options : Nat) (unsaved : Unsaved) :
    ∃ after, (reparse options unsaved).run.run workspace = (.ok frontend.attemptReparse.1, after) ∧
      after.frontend = some frontend.attemptReparse.2 ∧ after.frontendCalls = workspace.frontendCalls ++ ["reparse"] :=
  run_attempt here "reparse" _ attemptReparse

namespace TranslationUnit

/-- A file is parsed once, and a second time only if that succeeds. -/
theorem run_create_eq (here : workspace.frontend = some frontend) (path : String) (flags : List String)
    (unsaved : Unsaved) :
    ∃ after, (create path flags unsaved).run.run workspace = (.ok (parsedUnit? path flags frontend), after) ∧
      after.frontendCalls = workspace.frontendCalls ++ parsingCalls frontend ∧
      ((parsedUnit? path flags frontend).isSome →
        after.frontend = some frontend.attemptParse.2.attemptReparse.2) := by
  obtain ⟨parsed, parsing, parsedFrontend, parsedCalls⟩ := run_parse here path flags unsaved
  unfold create
  rw [Act.run_bind_ok parsing]
  cases parses : frontend.attemptParse.1 with
  | false =>
      have failed : parsedUnit? path flags frontend = none := by simp [parsedUnit?, parses]
      refine ⟨parsed, by rw [failed]; rfl, ?_, by simp [failed]⟩
      simp [parsedCalls, parsingCalls, parses]
  | true =>
      obtain ⟨reparsed, reparsing, reparsedFrontend, reparsedCalls⟩ :=
        run_reparse parsedFrontend editingOptions unsaved
      simp only [Bool.not_true, Bool.false_eq_true, if_false]
      rw [Act.run_bind_ok reparsing]
      have calls : reparsed.frontendCalls = workspace.frontendCalls ++ parsingCalls frontend := by
        simp [reparsedCalls, parsedCalls, parsingCalls, parses]
      cases reparses : frontend.attemptParse.2.attemptReparse.1 with
      | false =>
          have failed : parsedUnit? path flags frontend = none := by simp [parsedUnit?, reparses]
          exact ⟨reparsed, by rw [failed]; rfl, calls, by simp [failed]⟩
      | true =>
          have diagnostics : (reparsed.frontend.getD {}).diagnostics = frontend.diagnostics := by
            rw [reparsedFrontend, Option.getD_some, attemptReparse, diagnostics_attempt, attemptParse,
              diagnostics_attempt]
          have made : parsedUnit? path flags frontend =
              some { path, flags, isLive := true, diagnostics := (reparsed.frontend.getD {}).diagnostics } := by
            simp [parsedUnit?, parses, reparses, diagnostics]
          exact ⟨reparsed, by rw [made]; rfl, calls, fun _ => reparsedFrontend⟩

/-- A unit is made, and is live, when both attempts succeed. -/
theorem run_create (here : workspace.frontend = some frontend) (path : String) (flags : List String)
    (unsaved : Unsaved) :
    ∃ made after, (create path flags unsaved).run.run workspace = (.ok made, after) ∧
      (∀ unit, made = some unit → unit.isLive) ∧
      made.isSome = (frontend.attemptParse.1 && frontend.attemptParse.2.attemptReparse.1) ∧
      (made.isSome → after.frontend = some frontend.attemptParse.2.attemptReparse.2) := by
  obtain ⟨after, creating, _, atHand⟩ := run_create_eq here path flags unsaved
  refine ⟨parsedUnit? path flags frontend, after, creating, ?_, ?_, atHand⟩
  · intro unit isMade
    obtain ⟨_, rfl⟩ := Option.ite_some_none_eq_some.mp isMade
    rfl
  · unfold parsedUnit?
    split <;> simp_all

theorem run_reparse_dead {unit : TranslationUnit} (dead : unit.isLive = false) (options : Nat) (unsaved : Unsaved)
    (workspace : Workspace) : (unit.reparse options unsaved).run.run workspace = (.ok (unit, true), workspace) := by
  simp only [reparse, dead, Bool.not_false, if_true]
  rfl

/-- A live unit stays live when it is parsed again, and ends when that fails. -/
theorem run_reparse_live {unit : TranslationUnit} (live : unit.isLive = true)
    (here : workspace.frontend = some frontend) (options : Nat) (unsaved : Unsaved) :
    ∃ again after, (unit.reparse options unsaved).run.run workspace =
        (.ok (again, frontend.attemptReparse.1), after) ∧
      again.isLive = frontend.attemptReparse.1 := by
  obtain ⟨reparsed, reparsing, _, _⟩ := run_reparse here options unsaved
  simp only [reparse, live, Bool.not_true, Bool.false_eq_true, if_false]
  rw [Act.run_bind_ok reparsing]
  cases frontend.attemptReparse.1 with
  | false => exact ⟨_, reparsed, rfl, rfl⟩
  | true => exact ⟨_, reparsed, rfl, rfl⟩

end TranslationUnit

namespace Engine

variable {units : Engine} {key : UInt64}

/-- The front end as it is once a live unit has been fetched for a file, where there is one. It is asked for a unit
only where the store has none of the key. -/
def atHand? (units : Engine) (path : String) (key : UInt64) (frontend : Frontend) : Option Frontend :=
  match units.held? path key with
  | some unit => if unit.isLive then some frontend else none
  | none =>
    if frontend.attemptParse.1 && frontend.attemptParse.2.attemptReparse.1 then
      some frontend.attemptParse.2.attemptReparse.2
    else none

/-- There is a live unit for a file, held or newly made, and parsing it again fails. -/
def ReparseFails (units : Engine) (path : String) (key : UInt64) (frontend : Frontend) : Prop :=
  ∃ next, atHand? units path key frontend = some next ∧ next.attemptReparse.1 = false

/-- What is there when a unit has been fetched for a file. -/
structure Fetched (units : Engine) (frontend : Frontend) (path : String) (key : UInt64)
    (found : Option TranslationUnit) (isNew : Bool) (after : Engine × Workspace) : Prop where
  keyed : after.1.Keyed
  entry : after.1.stored? path = found.map (·, key)
  elsewhere : ∀ other, other ≠ path → after.1.stored? other = units.stored? other
  dead_iff : units.deadKey? path = some key ↔ ∃ unit, found = some unit ∧ unit.isLive = false
  ofLive : ∀ unit, found = some unit → unit.isLive = true →
    ∃ next, after.2.frontend = some next ∧ atHand? units path key frontend = some next
  ofNone : (∀ unit, found = some unit → unit.isLive = false) → atHand? units path key frontend = none

theorem fetched_held {unit : TranslationUnit} (keyed : units.Keyed) (here : workspace.frontend = some frontend)
    (held : units.held? path key = some unit) :
    Fetched units frontend path key (some unit) false (units, workspace) where
  keyed := keyed
  entry := UnitStore.held?_eq_some_iff.mp held
  elsewhere := fun _ _ => rfl
  dead_iff := by
    rw [UnitStore.deadKey?_of_stored? (UnitStore.held?_eq_some_iff.mp held)]
    cases live : unit.isLive <;> simp [live]
  ofLive := by
    rintro _ ⟨⟩ live
    exact ⟨frontend, here, by simp [atHand?, held, live]⟩
  ofNone := by
    intro dead
    simp [atHand?, held, dead unit rfl]

theorem fetched_made {made : Option TranslationUnit} {after : Workspace} (keyed : units.Keyed)
    (missing : units.held? path key = none) (live : ∀ unit, made = some unit → unit.isLive)
    (isMade : made.isSome = (frontend.attemptParse.1 && frontend.attemptParse.2.attemptReparse.1))
    (asked : made.isSome → after.frontend = some frontend.attemptParse.2.attemptReparse.2) :
    Fetched units frontend path key made made.isSome ((units.mark path key).finish path made, after) := by
  constructor
  · exact keyed.finish_mark made path key
  · exact UnitStore.stored?_finish_mark_self made units path key
  · exact fun other different => UnitStore.stored?_finish_mark_other made units key different
  · constructor
    · intro dead
      obtain ⟨unit, found, _⟩ := UnitStore.deadKey?_eq_some_iff.mp dead
      rw [UnitStore.held?_eq_some_iff.mpr found] at missing
      cases missing
    · rintro ⟨unit, isUnit, dead⟩
      simp [live unit isUnit] at dead
  · rintro unit rfl _
    exact ⟨_, asked rfl, by simp [atHand?, missing, ← isMade]⟩
  · intro dead
    cases made with
    | none => simp [atHand?, missing, ← isMade]
    | some unit => simp [live unit rfl] at dead

theorem run_changeStore (change : Engine → Engine) (units : Engine) (workspace : Workspace) :
    (changeStore change).run.run (units, workspace) = (.ok (), (change units, workspace)) := rfl

/-- A unit that the store holds with flags of the key is given out, and nothing is asked or changed. -/
theorem run_getOrCreate_of_held? {flags : List String} {unit : TranslationUnit}
    (held : units.held? path (flagsHash flags) = some unit) (unsaved : Unsaved) (workspace : Workspace) :
    (getOrCreate path flags unsaved).run.run (units, workspace) = (.ok (some unit, false), (units, workspace)) := by
  have reading : store.run.run (units, workspace) = (.ok units, (units, workspace)) := rfl
  unfold getOrCreate
  rw [Act.run_bind_ok reading]
  simp only [UnitStore.enter_of_held? held]
  rfl

/-- In any other case a unit is made. -/
theorem run_getOrCreate_of_not_held? {flags : List String} {unsaved : Unsaved} {made : Option TranslationUnit}
    {after : Workspace} (keyed : units.Keyed) (missing : units.held? path (flagsHash flags) = none)
    (creating : (TranslationUnit.create path flags unsaved).run.run workspace = (.ok made, after)) :
    (getOrCreate path flags unsaved).run.run (units, workspace) =
      (.ok (made, made.isSome), ((units.mark path (flagsHash flags)).finish path made, after)) := by
  have reading : store.run.run (units, workspace) = (.ok units, (units, workspace)) := rfl
  unfold getOrCreate
  rw [Act.run_bind_ok reading]
  simp only [UnitStore.enter_of_not_held? keyed missing]
  rw [Act.run_bind_ok (run_changeStore _ units workspace), Act.run_bind_ok (Act.run_lift_ok creating _),
    Act.run_bind_ok (run_changeStore _ _ after)]
  rfl

theorem run_getOrCreate (keyed : units.Keyed) (here : workspace.frontend = some frontend) (path : String)
    (flags : List String) (unsaved : Unsaved) :
    ∃ found isNew after, (getOrCreate path flags unsaved).run.run (units, workspace) = (.ok (found, isNew), after) ∧
      Fetched units frontend path (flagsHash flags) found isNew after := by
  cases held : units.held? path (flagsHash flags) with
  | some unit =>
      exact ⟨some unit, false, _, run_getOrCreate_of_held? held unsaved workspace, fetched_held keyed here held⟩
  | none =>
      obtain ⟨made, after, creating, live, isMade, asked⟩ := TranslationUnit.run_create here path flags unsaved
      exact ⟨made, made.isSome, _, run_getOrCreate_of_not_held? keyed held creating,
        fetched_made keyed held live isMade asked⟩

/-- What an operation with flags of a key does to the unit of its file. It raises only where it parses a live unit
again and that fails, and has a dead unit afterwards only if it raises or had one with this key before. -/
structure Outcome (units : Engine) (frontend : Frontend) (path : String) (key : UInt64) (parsesAgain : Bool)
    (raised : Prop) (after : Engine) : Prop where
  keyed : after.Keyed
  elsewhere : ∀ other, other ≠ path → after.stored? other = units.stored? other
  dead_iff : ∀ known, after.deadKey? path = some known ↔ known = key ∧ (raised ∨ units.deadKey? path = some key)
  raised_iff : raised ↔ parsesAgain = true ∧ ReparseFails units path key frontend

theorem Fetched.outcome {found : Option TranslationUnit} {isNew parsesAgain : Bool} {after : Engine × Workspace}
    {raised : Prop} {last : Engine} {final : Option TranslationUnit}
    (fetched : Fetched units frontend path key found isNew after) (keyed : last.Keyed)
    (elsewhere : ∀ other, other ≠ path → last.stored? other = after.1.stored? other)
    (entry : last.stored? path = final.map (·, key))
    (dead_iff : (∃ unit, final = some unit ∧ unit.isLive = false) ↔
      raised ∨ ∃ unit, found = some unit ∧ unit.isLive = false)
    (raised_iff : raised ↔ parsesAgain = true ∧ ReparseFails units path key frontend) :
    Outcome units frontend path key parsesAgain raised last where
  keyed := keyed
  elsewhere other different := (elsewhere other different).trans (fetched.elsewhere other different)
  dead_iff known := by
    rw [fetched.dead_iff, ← dead_iff, UnitStore.deadKey?_eq_some_iff, entry]
    constructor
    · rintro ⟨unit, isEntry, dead⟩
      obtain ⟨own, isFinal, same⟩ := Option.map_eq_some_iff.mp isEntry
      cases same
      exact ⟨rfl, unit, isFinal, dead⟩
    · rintro ⟨rfl, unit, isFinal, dead⟩
      exact ⟨unit, by rw [isFinal, Option.map_some], dead⟩
  raised_iff := raised_iff

/-- An operation that leaves the store as it was when the unit had been fetched. -/
theorem Fetched.outcome_same {found : Option TranslationUnit} {isNew parsesAgain : Bool} {after : Engine × Workspace}
    (fetched : Fetched units frontend path key found isNew after)
    (calm : ¬ (parsesAgain = true ∧ ReparseFails units path key frontend)) :
    Outcome units frontend path key parsesAgain False after.1 := by
  apply fetched.outcome fetched.keyed (fun _ _ => rfl) fetched.entry
  · rw [false_or]
  · exact (iff_false_intro calm).symm

/-- An operation that puts another unit in the place of the one that it fetched. -/
theorem Fetched.outcome_put {unit again : TranslationUnit} {isNew parsesAgain : Bool} {after : Engine × Workspace}
    {raised : Prop} (fetched : Fetched units frontend path key (some unit) isNew after)
    (dead_iff : again.isLive = false ↔ raised ∨ unit.isLive = false)
    (raised_iff : raised ↔ parsesAgain = true ∧ ReparseFails units path key frontend) :
    Outcome units frontend path key parsesAgain raised (after.1.put path again) := by
  refine fetched.outcome (fetched.keyed.put fetched.entry again)
    (fun other different => UnitStore.stored?_put_other _ again different)
    (show _ = (some again).map (·, key) from UnitStore.stored?_put_self fetched.entry again) ?_ raised_iff
  simpa using dead_iff

/-- An operation that removes the live unit it fetched. -/
theorem Fetched.outcome_remove {unit : TranslationUnit} {isNew : Bool} {after : Engine × Workspace}
    (fetched : Fetched units frontend path key (some unit) isNew after) (live : unit.isLive = true) :
    Outcome units frontend path key false False (after.1.remove path) := by
  refine fetched.outcome (fetched.keyed.remove path) (fun other different => UnitStore.stored?_remove_other _ different)
    (show _ = (none : Option TranslationUnit).map (·, key) from UnitStore.stored?_remove_self _ path) ?_ ?_
  · simp [live]
  · simp

/-- A fetched unit that is parsed again, where that is asked for. -/
theorem Fetched.run_refresh {unit : TranslationUnit} {isNew : Bool} {fetchedUnits : Engine}
    {fetchedWorkspace : Workspace}
    (fetched : Fetched units frontend path key (some unit) isNew (fetchedUnits, fetchedWorkspace))
    (unsaved : Unsaved) (parseAgain : Bool) :
    ∃ again worked later, (unit.refresh unsaved parseAgain).run.run fetchedWorkspace = (.ok (again, worked), later) ∧
      (again.isLive = false ↔ worked = false ∨ unit.isLive = false) ∧
      (worked = false ↔ parseAgain = true ∧ ReparseFails units path key frontend) := by
  cases parseAgain with
  | false => exact ⟨unit, true, fetchedWorkspace, rfl, by simp, by simp⟩
  | true =>
      simp only [TranslationUnit.refresh, if_true]
      cases live : unit.isLive with
      | false =>
          have reparsing := TranslationUnit.run_reparse_dead live indexingOptions unsaved fetchedWorkspace
          have absent := fetched.ofNone (by rintro _ ⟨⟩; exact live)
          exact ⟨unit, true, fetchedWorkspace, reparsing, by simp [live], by simp [ReparseFails, absent]⟩
      | true =>
          obtain ⟨next, atHand, isNext⟩ := fetched.ofLive unit rfl live
          obtain ⟨again, reparsed, reparsing, againLive⟩ :=
            TranslationUnit.run_reparse_live live atHand indexingOptions unsaved
          exact ⟨again, next.attemptReparse.1, reparsed, reparsing, by simp [againLive],
            by simp [ReparseFails, isNext]⟩

theorem Outcome.of_effect {α : Type} {act : Doing α} {state after : Engine × Workspace} {result : Except Fault α}
    {parsesAgain : Bool} (running : act.run.run state = (result, after))
    (outcome : Outcome units frontend path key parsesAgain (∃ fault, result = .error fault) after.1) :
    Outcome units frontend path key parsesAgain (∃ fault, ((do let _ ← act).run.run state).1 = .error fault)
      ((do let _ ← act).run.run state).2.1 := by
  rw [Act.run_effect, running]
  cases result with
  | error fault => simpa [Except.map] using outcome
  | ok value => simpa [Except.map] using outcome

section Operations

variable (keyed : units.Keyed) (here : workspace.frontend = some frontend)
include keyed here

theorem run_update (path : String) (flags : List String) (unsaved : Unsaved) :
    ∃ diagnostics after, (update path flags unsaved).run.run (units, workspace) = (.ok diagnostics, after) ∧
      Outcome units frontend path (flagsHash flags) false False after.1 := by
  obtain ⟨found, isNew, ⟨fetchedUnits, fetchedWorkspace⟩, fetching, fetched⟩ :=
    run_getOrCreate keyed here path flags unsaved
  have unchanged : Outcome units frontend path (flagsHash flags) false False fetchedUnits :=
    fetched.outcome_same nofun
  unfold update
  rw [Act.run_bind_ok fetching]
  cases found with
  | none => exact ⟨[], _, rfl, unchanged⟩
  | some unit =>
      cases isNew with
      | true => exact ⟨unit.latestDiagnostics, _, rfl, unchanged⟩
      | false =>
          simp only [Bool.false_eq_true, if_false]
          -- A unit that is dead already is not parsed again, and stays.
          cases live : unit.isLive with
          | false =>
              have reparsing := TranslationUnit.run_reparse_dead live editingOptions unsaved fetchedWorkspace
              rw [Act.run_bind_ok (Act.run_lift_ok reparsing fetchedUnits)]
              exact ⟨_, _, rfl, fetched.outcome_put (by simp) (by simp)⟩
          | true =>
              obtain ⟨next, atHand, _⟩ := fetched.ofLive unit rfl live
              obtain ⟨again, reparsed, reparsing, againLive⟩ :=
                TranslationUnit.run_reparse_live live atHand editingOptions unsaved
              rw [Act.run_bind_ok (Act.run_lift_ok reparsing fetchedUnits)]
              cases worked : next.attemptReparse.1 with
              | true => exact ⟨_, _, rfl, fetched.outcome_put (by simp [againLive, worked, live]) (by simp)⟩
              | false => exact ⟨_, _, rfl, fetched.outcome_remove live⟩

theorem run_completions (path : String) (line column : Int) (flags : List String) (unsaved : Unsaved) :
    ∃ found after, (completions path line column flags unsaved).run.run (units, workspace) = (.ok found, after) ∧
      Outcome units frontend path (flagsHash flags) false False after.1 := by
  obtain ⟨found, isNew, ⟨fetchedUnits, fetchedWorkspace⟩, fetching, fetched⟩ :=
    run_getOrCreate keyed here path flags unsaved
  have unchanged : Outcome units frontend path (flagsHash flags) false False fetchedUnits :=
    fetched.outcome_same nofun
  unfold completions
  rw [Act.run_bind_ok fetching]
  cases found with
  | none => exact ⟨[], _, rfl, unchanged⟩
  | some unit =>
      cases live : unit.isLive with
      | false =>
          simp only [live, Bool.not_false, if_true]
          exact ⟨[], _, rfl, unchanged⟩
      | true =>
          simp only [live, Bool.not_true, Bool.false_eq_true, if_false]
          exact ⟨_, _, rfl, unchanged⟩

/-- A lookup raises where it parses a live unit again and that fails; it leaves the unit in the store. -/
theorem run_follow (reference : Symbol → Int) (path : String) (line column : Int) (flags : List String)
    (unsaved : Unsaved) (parseAgain : Bool) :
    ∃ result after, (follow reference path line column flags unsaved parseAgain).run.run (units, workspace) =
        (result, after) ∧
      Outcome units frontend path (flagsHash flags) parseAgain (∃ fault, result = .error fault) after.1 := by
  obtain ⟨found, isNew, ⟨fetchedUnits, fetchedWorkspace⟩, fetching, fetched⟩ :=
    run_getOrCreate keyed here path flags unsaved
  unfold follow
  rw [Act.run_bind_ok fetching]
  cases found with
  | none =>
      have absent := fetched.ofNone nofun
      refine ⟨_, _, rfl, ?_⟩
      simpa using fetched.outcome_same (by simp [ReparseFails, absent])
  | some unit =>
      obtain ⟨again, worked, later, reparsing, dead_iff, failed_iff⟩ :=
        fetched.run_refresh unsaved parseAgain
      simp only
      rw [Act.run_bind_ok (Act.run_lift_ok reparsing fetchedUnits),
        Act.run_bind_ok (run_changeStore _ fetchedUnits later)]
      have outcome : Outcome units frontend path (flagsHash flags) parseAgain (worked = false)
          (fetchedUnits.put path again) := fetched.outcome_put dead_iff failed_iff
      cases worked with
      | false => exact ⟨_, _, rfl, by simpa using outcome⟩
      | true =>
          simp only [Bool.not_true, Bool.false_eq_true, if_false]
          split
          · exact ⟨_, _, rfl, by simpa using outcome⟩
          · exact ⟨_, _, rfl, by simpa using outcome⟩

end Operations

end Engine

end Frontend

end Typeahead

import Mathlib.Data.Set.Function
import Typeahead.Proofs.EngineOutcomes

namespace Typeahead

/-! The store of translation units as a map. Calls that come one after another are answered as by a map that has, for
each file, at most one unit and the flags it was parsed with, as long as the keys of the flags that are asked for tell
them apart. -/

namespace Frontend

/-- What can be asked of the store. -/
inductive StoreCall where
  | getOrCreate (path : String) (flags : List String) (unsaved : Unsaved)
  | get (path : String)
  | remove (path : String)
  | removeAll

namespace StoreCall

def perform : StoreCall → Doing (Option TranslationUnit × Bool)
  | .getOrCreate path flags unsaved => Engine.getOrCreate path flags unsaved
  | .get path => do return ((← Engine.store).get? path, false)
  | .remove path => do
    Engine.changeStore (·.remove path)
    return (none, false)
  | .removeAll => do
    Engine.changeStore (·.removeAll)
    return (none, false)

/-- The one file that a call is about. -/
def path? : StoreCall → Option String
  | .getOrCreate path _ _ | .get path | .remove path => some path
  | .removeAll => none

def flags? : StoreCall → Option (List String)
  | .getOrCreate _ flags _ => some flags
  | _ => none

end StoreCall

/-- A call, and how the front end answers while it lasts. -/
structure StoreStep where
  call : StoreCall
  frontend : Frontend := {}

/-- The unit that a call gives, whether it was made just now, and what the front end was asked for. -/
structure UnitReply where
  unit : Option TranslationUnit := none
  isNew : Bool := false
  calls : List String := []

/-- For each file at most one unit, with the flags it was parsed with. -/
abbrev UnitMap := String → Option (List String × TranslationUnit)

namespace StoreStep

def answer (step : StoreStep) (state : Engine × Workspace) : Except Fault UnitReply × Engine × Workspace :=
  let done := step.call.perform.run.run (state.1, { state.2 with frontend := some step.frontend })
  (done.1.map fun given =>
    { unit := given.1, isNew := given.2, calls := done.2.2.frontendCalls.drop state.2.frontendCalls.length }, done.2)

/-- How a map answers. A unit with the flags that are asked for is given as it is. Where there is none, the file is
parsed, and the map has the new unit with its flags in place of any other; after a failure it has none. -/
def serve (step : StoreStep) (entries : UnitMap) : UnitReply × UnitMap :=
  match step.call with
  | .getOrCreate path flags _ =>
    match (entries path).filter fun entry => entry.1 = flags with
    | some entry => ({ unit := some entry.2 }, entries)
    | none =>
      let made := parsedUnit? path flags step.frontend
      ({ unit := made, isNew := made.isSome, calls := parsingCalls step.frontend },
        Function.update entries path (made.map (flags, ·)))
  | .get path => ({ unit := (entries path).map (·.2) }, entries)
  | .remove path => ({}, Function.update entries path none)
  | .removeAll => ({}, fun _ => none)

end StoreStep

/-- The answers to steps, one after another, and the last state. -/
def answersTo {σ ρ : Type} (answer : StoreStep → σ → ρ × σ) : List StoreStep → σ → List ρ × σ
  | [], state => ([], state)
  | step :: later, state =>
    let rest := answersTo answer later (answer step state).2
    ((answer step state).1 :: rest.1, rest.2)

/-- The flags that units are asked for with. -/
def flagsOf (steps : List StoreStep) : List (List String) := steps.filterMap (·.call.flags?)

theorem mem_flagsOf_cons {flags : List String} {step : StoreStep} {later : List StoreStep} :
    flags ∈ flagsOf (step :: later) ↔ step.call.flags? = some flags ∨ flags ∈ flagsOf later := by
  simp [flagsOf]

namespace StoreStep

variable {step : StoreStep} {path : String} {flags : List String} {unsaved : Unsaved} {entries : UnitMap}

theorem answer_of_run {call : StoreCall} {frontend : Frontend} {store : Engine} {workspace : Workspace}
    {unit : Option TranslationUnit} {isNew : Bool} {calls : List String} {after : Engine × Workspace}
    (running : call.perform.run.run (store, { workspace with frontend := some frontend }) = (.ok (unit, isNew), after))
    (asked : after.2.frontendCalls = workspace.frontendCalls ++ calls) :
    answer { call, frontend } (store, workspace) = (.ok { unit, isNew, calls }, after) := by
  simp [answer, running, Except.map, asked]

/-- A call about one file leaves the entries of all others, whatever the keys of the flags are. -/
theorem stored?_answer_other {store : Engine} {other : String} (keyed : store.Keyed)
    (isPath : step.call.path? = some path) (different : other ≠ path) (workspace : Workspace) :
    (step.answer (store, workspace)).2.1.stored? other = store.stored? other := by
  obtain ⟨call, frontend⟩ := step
  cases call with
  | getOrCreate own flags unsaved =>
      cases isPath
      let facing : Workspace := { workspace with frontend := some frontend }
      obtain ⟨found, isNew, after, running, fetched⟩ :=
        Engine.run_getOrCreate keyed (show facing.frontend = some frontend from rfl) path flags unsaved
      change ((Engine.getOrCreate path flags unsaved).run.run (store, facing)).2.1.stored? other = _
      rw [running]
      exact fetched.elsewhere other different
  | get own => rfl
  | remove own =>
      cases isPath
      exact UnitStore.stored?_remove_other store different
  | removeAll => cases isPath

theorem serve_of_known {entry : List String × TranslationUnit} (isCall : step.call = .getOrCreate path flags unsaved)
    (known : ((entries path).filter fun entry => entry.1 = flags) = some entry) :
    step.serve entries = ({ unit := some entry.2 }, entries) := by
  simp only [serve, isCall, known]

theorem serve_of_unknown (isCall : step.call = .getOrCreate path flags unsaved)
    (unknown : ((entries path).filter fun entry => entry.1 = flags) = none) :
    step.serve entries =
      ({ unit := parsedUnit? path flags step.frontend, isNew := (parsedUnit? path flags step.frontend).isSome,
         calls := parsingCalls step.frontend },
        Function.update entries path ((parsedUnit? path flags step.frontend).map (flags, ·))) := by
  simp only [serve, isCall, unknown]

end StoreStep

/-- A store whose two tables hold what a map says, with flags from a set. -/
structure Represents (asked : Set (List String)) (store : Engine) (entries : UnitMap) : Prop where
  keyed : store.Keyed
  stored : ∀ path, store.stored? path = (entries path).map fun entry => (entry.2, flagsHash entry.1)
  within : ∀ path entry, entries path = some entry → entry.1 ∈ asked

namespace Represents

variable {asked : Set (List String)} {store : Engine} {entries : UnitMap}

theorem empty (asked : Set (List String)) : Represents asked {} fun _ => none where
  keyed := UnitStore.keyed_empty
  stored := fun _ => rfl
  within := by simp

/-- Keys that tell the flags apart find the unit of just these flags. -/
theorem held?_eq (represents : Represents asked store entries) (apart : Set.InjOn flagsHash asked) {flags : List String}
    (isAsked : flags ∈ asked) (path : String) :
    store.held? path (flagsHash flags) = ((entries path).filter fun entry => entry.1 = flags).map (·.2) := by
  rw [UnitStore.held?, represents.stored]
  cases found : entries path with
  | none => rfl
  | some entry =>
      have sameFlags := apart.eq_iff (represents.within path entry found) isAsked
      obtain ⟨own, unit⟩ := entry
      by_cases same : own = flags
      · simp [same]
      · simp [same, sameFlags]

/-- A change that concerns one file is a change of the map there. -/
theorem update (represents : Represents asked store entries) (path : String) {after : Engine}
    {held : Option (List String × TranslationUnit)} (keyed : after.Keyed)
    (here : after.stored? path = held.map fun entry => (entry.2, flagsHash entry.1))
    (elsewhere : ∀ other, other ≠ path → after.stored? other = store.stored? other)
    (within : ∀ entry, held = some entry → entry.1 ∈ asked) :
    Represents asked after (Function.update entries path held) where
  keyed := keyed
  stored other := by
    by_cases same : other = path
    · subst same
      rw [Function.update_self, here]
    · rw [Function.update_of_ne same, elsewhere other same, represents.stored]
  within other entry found := by
    by_cases same : other = path
    · subst same
      rw [Function.update_self] at found
      exact within entry found
    · rw [Function.update_of_ne same] at found
      exact represents.within other entry found

theorem remove (represents : Represents asked store entries) (path : String) :
    Represents asked (store.remove path) (Function.update entries path none) := by
  apply represents.update path (represents.keyed.remove path)
  · exact UnitStore.stored?_remove_self store path
  · intro other different
    exact UnitStore.stored?_remove_other store different
  · simp

theorem finish (represents : Represents asked store entries) (path : String) {flags : List String}
    (isAsked : flags ∈ asked) (made : Option TranslationUnit) :
    Represents asked ((store.mark path (flagsHash flags)).finish path made)
      (Function.update entries path (made.map (flags, ·))) := by
  apply represents.update path (represents.keyed.finish_mark made path (flagsHash flags))
  · rw [UnitStore.stored?_finish_mark_self, Option.map_map]
    rfl
  · intro other different
    exact UnitStore.stored?_finish_mark_other made store (flagsHash flags) different
  · intro entry isEntry
    obtain ⟨unit, _, rfl⟩ := Option.map_eq_some_iff.mp isEntry
    exact isAsked

/-- One call is answered as by the map, and does to the store what it does to the map. -/
theorem step (represents : Represents asked store entries) (apart : Set.InjOn flagsHash asked) (step : StoreStep)
    (isAsked : ∀ flags, step.call.flags? = some flags → flags ∈ asked) (workspace : Workspace) :
    (step.answer (store, workspace)).1 = .ok (step.serve entries).1 ∧
      Represents asked (step.answer (store, workspace)).2.1 (step.serve entries).2 := by
  let facing : Workspace := { workspace with frontend := some step.frontend }
  have sameCalls : facing.frontendCalls = workspace.frontendCalls ++ [] := (List.append_nil _).symm
  obtain ⟨call, frontend⟩ := step
  cases call with
  | getOrCreate path flags unsaved =>
      have held := represents.held?_eq apart (isAsked flags rfl) path
      cases known : (entries path).filter fun entry => entry.1 = flags with
      | some entry =>
          rw [known, Option.map_some] at held
          have running : (StoreCall.getOrCreate path flags unsaved).perform.run.run (store, facing) =
              (.ok (some entry.2, false), (store, facing)) :=
            Engine.run_getOrCreate_of_held? held unsaved facing
          rw [StoreStep.answer_of_run running sameCalls, StoreStep.serve_of_known rfl known]
          exact ⟨rfl, represents⟩
      | none =>
          rw [known, Option.map_none] at held
          obtain ⟨after, creating, calls, _⟩ :=
            TranslationUnit.run_create_eq (show facing.frontend = some frontend from rfl) path flags unsaved
          have running : (StoreCall.getOrCreate path flags unsaved).perform.run.run (store, facing) = _ :=
            Engine.run_getOrCreate_of_not_held? represents.keyed held creating
          rw [StoreStep.answer_of_run running calls, StoreStep.serve_of_unknown rfl known]
          exact ⟨rfl, represents.finish path (isAsked flags rfl) _⟩
  | get path =>
      have running : (StoreCall.get path).perform.run.run (store, facing) =
          (.ok (store.get? path, false), (store, facing)) := rfl
      rw [StoreStep.answer_of_run running sameCalls, UnitStore.get?_eq_map_stored? represents.keyed,
        represents.stored, Option.map_map]
      exact ⟨rfl, represents⟩
  | remove path =>
      have running : (StoreCall.remove path).perform.run.run (store, facing) =
          (.ok (none, false), (store.remove path, facing)) := rfl
      rw [StoreStep.answer_of_run running sameCalls]
      exact ⟨rfl, represents.remove path⟩
  | removeAll =>
      have running : StoreCall.removeAll.perform.run.run (store, facing) = (.ok (none, false), ({}, facing)) := rfl
      rw [StoreStep.answer_of_run running sameCalls]
      exact ⟨rfl, empty asked⟩

theorem run (represents : Represents asked store entries) (apart : Set.InjOn flagsHash asked)
    {steps : List StoreStep} (areAsked : ∀ flags ∈ flagsOf steps, flags ∈ asked) (workspace : Workspace) :
    (answersTo StoreStep.answer steps (store, workspace)).1 =
        (answersTo StoreStep.serve steps entries).1.map .ok ∧
      Represents asked (answersTo StoreStep.answer steps (store, workspace)).2.1
        (answersTo StoreStep.serve steps entries).2 := by
  induction steps generalizing store entries workspace with
  | nil => exact ⟨rfl, represents⟩
  | cons step later ih =>
      have isAsked : ∀ flags, step.call.flags? = some flags → flags ∈ asked :=
        fun flags ofStep => areAsked flags (mem_flagsOf_cons.mpr (.inl ofStep))
      have areAskedLater : ∀ flags ∈ flagsOf later, flags ∈ asked :=
        fun flags ofLater => areAsked flags (mem_flagsOf_cons.mpr (.inr ofLater))
      obtain ⟨sameReply, representsNext⟩ := represents.step apart step isAsked workspace
      obtain ⟨sameReplies, representsLast⟩ := ih representsNext areAskedLater (step.answer (store, workspace)).2.2
      refine ⟨?_, representsLast⟩
      simp only [answersTo, List.map_cons, sameReply, sameReplies]

end Represents

/-- From the empty store on, any calls in a row are answered as by a map from files to flags and units: with a unit of
the same flags if there is one, and otherwise by parsing, which either puts the new unit in or leaves none. The two
tables always know the same files, and a call about one file leaves the entries of the others. -/
theorem store_refines_unit_map (workspace : Workspace) (steps : List StoreStep)
    (apart : Set.InjOn flagsHash { flags | flags ∈ flagsOf steps }) :
    let last := (answersTo StoreStep.answer steps ({}, workspace)).2
    (answersTo StoreStep.answer steps ({}, workspace)).1 =
        (answersTo StoreStep.serve steps fun _ => none).1.map .ok ∧
      (∀ path, (last.1.units.lookup path).isSome = (last.1.keys.lookup path).isSome) ∧
      (∀ path, last.1.stored? path =
        ((answersTo StoreStep.serve steps fun _ => none).2 path).map fun entry => (entry.2, flagsHash entry.1)) ∧
      ∀ (next : StoreStep) (path other : String), next.call.path? = some path → other ≠ path →
        (next.answer last).2.1.stored? other = last.1.stored? other := by
  intro last
  obtain ⟨sameReplies, represents⟩ :=
    (Represents.empty { flags | flags ∈ flagsOf steps }).run apart (fun _ isOf => isOf) workspace
  refine ⟨sameReplies, represents.keyed, represents.stored, ?_⟩
  intro next path other isPath different
  exact StoreStep.stored?_answer_other represents.keyed isPath different last.2

/-- A unit that is asked for again, and one that is lost as it cannot be parsed with other flags. -/
theorem store_refines_unit_map_two_files :
    let steps : List StoreStep := [
      { call := .getOrCreate "/a.cpp" ["-DA"] [] },
      { call := .getOrCreate "/a.cpp" ["-DA"] [] },
      { call := .getOrCreate "/b.cpp" ["-DB"] [] },
      { call := .getOrCreate "/a.cpp" ["-DB"] [], frontend := { parseFails := true } },
      { call := .get "/a.cpp" },
      { call := .get "/b.cpp" }]
    let last := (answersTo StoreStep.answer steps ({}, {})).2
    Set.InjOn flagsHash { flags | flags ∈ flagsOf steps } ∧
      ((answersTo StoreStep.answer steps ({}, {})).1.map fun reply =>
          reply.toOption.map fun given => (given.unit.map (·.flags), given.isNew, given.calls)) =
        [some (some ["-DA"], true, ["parse", "reparse"]), some (some ["-DA"], false, []),
          some (some ["-DB"], true, ["parse", "reparse"]), some (none, false, ["parse"]),
          some (none, false, []), some (some ["-DB"], false, [])] ∧
      (last.1.units.lookup "/b.cpp").isSome = (last.1.keys.lookup "/b.cpp").isSome ∧
      (last.1.stored? "/a.cpp").isNone ∧
      (StoreStep.answer { call := .remove "/a.cpp" } last).2.1.stored? "/b.cpp" = last.1.stored? "/b.cpp" := by
  intro steps last
  have apart : ∀ first ∈ flagsOf steps, ∀ second ∈ flagsOf steps,
      flagsHash first = flagsHash second → first = second := by decide +kernel
  have injective : Set.InjOn flagsHash { flags | flags ∈ flagsOf steps } :=
    fun first isFirst second isSecond same => apart first isFirst second isSecond same
  obtain ⟨sameReplies, sameFiles, stored, elsewhere⟩ := store_refines_unit_map {} steps injective
  refine ⟨injective, ?_, sameFiles "/b.cpp", ?_, ?_⟩
  · rw [sameReplies]
    decide +kernel
  · rw [stored]
    decide +kernel
  · exact elsewhere { call := .remove "/a.cpp" } "/a.cpp" "/b.cpp" rfl (by decide)

end Frontend

end Typeahead

import Mathlib.Data.List.Induction
import Typeahead.Proofs.EngineOutcomes

namespace Typeahead.Frontend

/-! Calls for translation units that overlap. A call enters a placeholder, has its file parsed while others may use the
store, and puts the unit in place. Stored units have the flags that the store knows for their files exactly as long as
no call finishes after another one has entered its file with other flags, and no unit that was left without a key is
taken for one of the default key. -/

/-- How far a call for a unit has come. -/
inductive Stage where
  | parsing
  /-- The file has been parsed, or that has failed. -/
  | parsed (made : Option TranslationUnit)
  | returned (unit : Option TranslationUnit)

/-- A call for the unit of a file. -/
structure UnitCall where
  path : String
  flags : List String
  unsaved : Unsaved
  stage : Stage

/-- The unit that a call has got. -/
def UnitCall.answer? (call : UnitCall) : Option TranslationUnit :=
  match call.stage with
  | .returned unit => unit
  | _ => none

/-- If a call has got a live unit, it was parsed with flags of the call's own key. -/
def UnitCall.Served (call : UnitCall) : Prop :=
  ∀ unit, call.answer? = some unit → unit.isLive = true → flagsHash unit.flags = flagsHash call.flags

/-- A store with all the calls there have been so far. -/
structure Sharing where
  units : Engine := {}
  workspace : Workspace := {}
  calls : List UnitCall := []

/-- One step of one user of the store. Calls are named by their place in the order of entry. -/
inductive Move where
  | enter (path : String) (flags : List String) (unsaved : Unsaved)
  /-- Has the file of a call parsed; the front end answers as given. -/
  | parse (index : Nat) (frontend : Frontend)
  | finish (index : Nat)
  | remove (path : String)
  | removeAll

namespace TranslationUnit

theorem flags_of_create {workspace after : Workspace} {frontend : Frontend} {path : String} {flags : List String}
    {unsaved : Unsaved} {unit : TranslationUnit} (here : workspace.frontend = some frontend)
    (creating : (create path flags unsaved).run.run workspace = (.ok (some unit), after)) :
    unit.flags = flags ∧ unit.isLive = true := by
  obtain ⟨_, created, _⟩ := run_create_eq here path flags unsaved
  have isMade : parsedUnit? path flags frontend = some unit :=
    Except.ok.inj (congrArg Prod.fst (created.symm.trans creating))
  obtain ⟨_, rfl⟩ := Option.ite_some_none_eq_some.mp isMade
  exact ⟨rfl, rfl⟩

end TranslationUnit

namespace UnitStore

variable {κ : Type} [BEq κ] [LawfulBEq κ] [Inhabited κ]

/-- What the first step of a call can do: it finds a unit of the key, takes a unit that has no key for one of the
default key, or enters a placeholder. -/
theorem enter_cases (store : UnitStore κ) (path : String) (key : κ) :
    (∃ unit, store.stored? path = some (unit, key) ∧ store.enter path key = (some unit, store)) ∨
      (∃ unit, store.units.lookup path = some unit ∧ store.keys.lookup path = none ∧ key = default ∧
        store.enter path key = (some unit, { store with keys := Table.put path default store.keys })) ∨
      store.enter path key = (none, store.mark path key) := by
  unfold enter get?
  cases foundUnit : store.units.lookup path with
  | none => exact Or.inr (Or.inr rfl)
  | some unit =>
      cases foundKey : store.keys.lookup path with
      | some known =>
          by_cases same : known = key
          · subst same
            refine Or.inl ⟨unit, stored?_eq_some_iff.mpr ⟨foundUnit, foundKey⟩, ?_⟩
            simp [readKey, foundKey]
          · refine Or.inr (Or.inr ?_)
            simp [readKey, foundKey, same]
      | none =>
          by_cases same : default = key
          · refine Or.inr (Or.inl ⟨unit, rfl, rfl, same.symm, ?_⟩)
            simp [readKey, foundKey, same]
          · refine Or.inr (Or.inr ?_)
            simp [readKey, foundKey, same, mark]

omit [BEq κ] [LawfulBEq κ] [Inhabited κ] in
theorem stored?_removeAll (store : UnitStore κ) (path : String) : store.removeAll.stored? path = none := rfl

end UnitStore

namespace Sharing

variable {state : Sharing} {move : Move}

/-- Brings a call to another stage. -/
def advance (state : Sharing) (index : Nat) (call : UnitCall) (stage : Stage) : Sharing :=
  { state with calls := state.calls.set index { call with stage } }

/-- What a step does; a step that is not due does nothing. -/
def step (state : Sharing) : Move → Sharing
  | .enter path flags unsaved =>
    let (found, units) := state.units.enter path (flagsHash flags)
    let stage := match found with
      | some unit => .returned (some unit)
      | none => .parsing
    { state with units, calls := state.calls ++ [⟨path, flags, unsaved, stage⟩] }
  | .parse index frontend =>
    match state.calls[index]? with
    | some ⟨path, flags, unsaved, .parsing⟩ =>
      match (TranslationUnit.create path flags unsaved).run.run { state.workspace with frontend := some frontend } with
      | (.ok made, workspace) => { state with workspace }.advance index ⟨path, flags, unsaved, .parsing⟩ (.parsed made)
      | (.error _, workspace) => { state with workspace }
    | _ => state
  | .finish index =>
    match state.calls[index]? with
    | some ⟨path, flags, unsaved, .parsed made⟩ =>
      { state with units := state.units.finish path made }.advance index ⟨path, flags, unsaved, .parsed made⟩
        (.returned made)
    | _ => state
  | .remove path => { state with units := state.units.remove path }
  | .removeAll => { state with units := state.units.removeAll }

theorem step_enter_found {path : String} {flags : List String} {unit : TranslationUnit} {units : Engine}
    (entering : state.units.enter path (flagsHash flags) = (some unit, units)) (unsaved : Unsaved) :
    state.step (.enter path flags unsaved) =
      { state with units, calls := state.calls ++ [⟨path, flags, unsaved, .returned (some unit)⟩] } := by
  simp only [step, entering]

theorem step_enter_marked {path : String} {flags : List String}
    (entering : state.units.enter path (flagsHash flags) = (none, state.units.mark path (flagsHash flags)))
    (unsaved : Unsaved) :
    state.step (.enter path flags unsaved) =
      { state with units := state.units.mark path (flagsHash flags),
                   calls := state.calls ++ [⟨path, flags, unsaved, .parsing⟩] } := by
  simp only [step, entering]

theorem step_parse (state : Sharing) (index : Nat) (frontend : Frontend) :
    state.step (.parse index frontend) = state ∨
      ∃ call made workspace, state.calls[index]? = some call ∧ call.stage = .parsing ∧
        (∀ unit, made = some unit → unit.flags = call.flags ∧ unit.isLive = true) ∧
        state.step (.parse index frontend) = { state with workspace }.advance index call (.parsed made) := by
  simp only [step]
  split
  · rename_i path flags unsaved due
    let asked : Workspace := { state.workspace with frontend := some frontend }
    obtain ⟨made, workspace, creating, _⟩ :=
      TranslationUnit.run_create (show asked.frontend = some frontend from rfl) path flags unsaved
    refine Or.inr ⟨_, made, workspace, due, rfl, ?_, ?_⟩
    · rintro unit rfl
      exact TranslationUnit.flags_of_create (show asked.frontend = some frontend from rfl) creating
    · simp only [asked] at creating
      simp only [creating]
  · exact Or.inl rfl

theorem step_finish (state : Sharing) (index : Nat) :
    state.step (.finish index) = state ∨
      ∃ call made, state.calls[index]? = some call ∧ call.stage = .parsed made ∧
        state.step (.finish index) =
          { state with units := state.units.finish call.path made }.advance index call (.returned made) := by
  simp only [step]
  split
  · rename_i due
    exact Or.inr ⟨_, _, due, rfl, rfl⟩
  · exact Or.inl rfl

theorem mem_calls_advance {index : Nat} {call other : UnitCall} {stage : Stage}
    (member : other ∈ (state.advance index call stage).calls) : other ∈ state.calls ∨ other = { call with stage } :=
  List.mem_or_eq_of_mem_set member

/-- The store and the calls agree on flags: a live unit was parsed with flags of the key that is stored with it, and
each call has got such a unit only. -/
structure Faithful (state : Sharing) : Prop where
  stored : ∀ path unit key, state.units.stored? path = some (unit, key) → unit.isLive = true →
    flagsHash unit.flags = key
  served : ∀ call ∈ state.calls, call.Served

/-- Calls parse with their own flags. -/
def Made (state : Sharing) : Prop :=
  ∀ call ∈ state.calls, ∀ unit, call.stage = .parsed (some unit) → unit.flags = call.flags ∧ unit.isLive = true

/-- A step that puts a unit and the key of other flags together. Either a call finishes although another one has
entered its file with other flags since, or a unit without a key is given to a call whose flags have the default
key. -/
inductive Spoils (state : Sharing) : Move → Prop where
  | overtaken {index : Nat} {call : UnitCall} {unit : TranslationUnit} {key : UInt64}
      (due : state.calls[index]? = some call) (parsed : call.stage = .parsed (some unit))
      (known : state.units.keys.lookup call.path = some key) (otherFlags : flagsHash call.flags ≠ key) :
      Spoils state (.finish index)
  | unkeyed {path : String} {flags : List String} {unsaved : Unsaved} {unit : TranslationUnit}
      (found : state.units.units.lookup path = some unit) (live : unit.isLive = true)
      (unknown : state.units.keys.lookup path = none) (byDefault : flagsHash flags = default)
      (otherFlags : flagsHash unit.flags ≠ default) :
      Spoils state (.enter path flags unsaved)

theorem Made.step (made : state.Made) (move : Move) : (state.step move).Made := by
  intro call member unit parsed
  cases move with
  | enter path flags unsaved =>
      simp only [Sharing.step, List.mem_append, List.mem_singleton] at member
      rcases member with before | rfl
      · exact made call before unit parsed
      · dsimp only at parsed
        split at parsed <;> cases parsed
  | parse index frontend =>
      rcases step_parse state index frontend with same | ⟨own, result, workspace, due, _, ofOwn, next⟩
      · rw [same] at member
        exact made call member unit parsed
      · rw [next] at member
        rcases mem_calls_advance member with before | rfl
        · exact made call before unit parsed
        · cases parsed
          exact ofOwn unit rfl
  | finish index =>
      rcases step_finish state index with same | ⟨own, result, due, _, next⟩
      · rw [same] at member
        exact made call member unit parsed
      · rw [next] at member
        rcases mem_calls_advance member with before | rfl
        · exact made call before unit parsed
        · cases parsed
  | remove path => exact made call member unit parsed
  | removeAll => exact made call member unit parsed

/-- A step that changes what is stored for one file only. -/
theorem Faithful.update {next : Sharing} (faithful : state.Faithful) (path : String)
    (elsewhere : ∀ other, other ≠ path → next.units.stored? other = state.units.stored? other)
    (here : ∀ unit key, next.units.stored? path = some (unit, key) → unit.isLive = true → flagsHash unit.flags = key)
    (served : ∀ call ∈ next.calls, call ∈ state.calls ∨ call.Served) :
    next.Faithful where
  stored other unit key found live := by
    by_cases same : other = path
    · subst same
      exact here unit key found live
    · rw [elsewhere other same] at found
      exact faithful.stored other unit key found live
  served call member := by
    rcases served call member with before | own
    · exact faithful.served call before
    · exact own

theorem mem_calls_concat {calls : List UnitCall} {last : UnitCall} (own : last.Served) :
    ∀ call ∈ calls ++ [last], call ∈ calls ∨ call.Served := by
  intro call member
  rcases List.mem_append.mp member with before | isLast
  · exact Or.inl before
  · rw [List.mem_singleton.mp isLast]
    exact Or.inr own

theorem Faithful.enter (faithful : state.Faithful) {path : String} {flags : List String} {unsaved : Unsaved}
    (calm : ¬ state.Spoils (.enter path flags unsaved)) : (state.step (.enter path flags unsaved)).Faithful := by
  rcases state.units.enter_cases path (flagsHash flags) with
    ⟨unit, found, entering⟩ | ⟨unit, found, unknown, byDefault, entering⟩ | entering
  · rw [step_enter_found entering]
    refine faithful.update path (fun _ _ => rfl) (fun other key => faithful.stored path other key) ?_
    refine mem_calls_concat ?_
    rintro _ ⟨⟩ live
    exact faithful.stored path unit _ found live
  · have ofDefault : unit.isLive = true → flagsHash unit.flags = default := by
      intro live
      by_contra otherFlags
      exact calm (.unkeyed found live unknown byDefault otherFlags)
    rw [step_enter_found entering]
    refine faithful.update path ?_ ?_ (mem_calls_concat ?_)
    · intro other different
      simp only [UnitStore.stored?, Table.lookup_put_other _ _ different]
    · intro other key stored live
      obtain ⟨isUnit, isKey⟩ := UnitStore.stored?_eq_some_iff.mp stored
      rw [found] at isUnit
      rw [Table.lookup_put_self] at isKey
      cases isUnit
      cases isKey
      exact ofDefault live
    · rintro _ ⟨⟩ live
      exact (ofDefault live).trans byDefault.symm
  · rw [step_enter_marked entering]
    refine faithful.update path (fun other different => UnitStore.stored?_mark_other _ _ different) ?_
      (mem_calls_concat ?_)
    · intro unit key stored live
      rw [UnitStore.stored?_mark_self] at stored
      cases stored
      cases live
    · intro unit gotten
      cases gotten

theorem Faithful.finish (faithful : state.Faithful) (made : state.Made) {index : Nat}
    (calm : ¬ state.Spoils (.finish index)) : (state.step (.finish index)).Faithful := by
  rcases step_finish state index with same | ⟨call, result, due, parsed, next⟩
  · rw [same]
    exact faithful
  · have own : ∀ unit, result = some unit → unit.flags = call.flags ∧ unit.isLive = true := by
      rintro unit rfl
      exact made call (List.mem_of_getElem? due) unit parsed
    rw [next]
    refine faithful.update call.path ?_ ?_ ?_
    · intro other different
      cases result with
      | none => exact UnitStore.stored?_remove_other _ different
      | some unit => exact UnitStore.stored?_put_other _ unit different
    · intro unit key stored live
      cases result with
      | none =>
          rw [show (advance _ index call _).units = state.units.remove call.path from rfl,
            UnitStore.stored?_remove_self] at stored
          cases stored
      | some put =>
          obtain ⟨isUnit, isKey⟩ := UnitStore.stored?_eq_some_iff.mp stored
          rw [show (advance _ index call _).units.units = Table.put call.path put state.units.units from rfl,
            Table.lookup_put_self] at isUnit
          cases isUnit
          rw [(own unit rfl).1]
          -- Another key can only be that of a call which entered the file in between.
          by_contra otherFlags
          exact calm (.overtaken due parsed isKey otherFlags)
    · intro other member
      rcases mem_calls_advance member with before | rfl
      · exact Or.inl before
      · refine Or.inr ?_
        rintro unit ⟨⟩ _
        rw [(own unit rfl).1]

theorem Faithful.step (faithful : state.Faithful) (made : state.Made) (calm : ¬ state.Spoils move) :
    (state.step move).Faithful := by
  cases move with
  | enter path flags unsaved => exact faithful.enter calm
  | parse index frontend =>
      rcases step_parse state index frontend with same | ⟨call, result, workspace, due, _, _, next⟩
      · rw [same]
        exact faithful
      · rw [next]
        refine faithful.update call.path (fun _ _ => rfl) (fun unit key => faithful.stored call.path unit key) ?_
        intro other member
        rcases mem_calls_advance member with before | rfl
        · exact Or.inl before
        · refine Or.inr ?_
          intro unit gotten
          cases gotten
  | finish index => exact faithful.finish made calm
  | remove path =>
      refine faithful.update path (fun other different => UnitStore.stored?_remove_other _ different) ?_
        (fun _ member => Or.inl member)
      intro unit key stored
      rw [show (state.step (.remove path)).units = state.units.remove path from rfl,
        UnitStore.stored?_remove_self] at stored
      cases stored
  | removeAll =>
      refine ⟨?_, faithful.served⟩
      intro path unit key stored
      rw [show (state.step .removeAll).units = state.units.removeAll from rfl,
        UnitStore.stored?_removeAll] at stored
      cases stored

/-- A step that spoils something leaves a live unit with the key of other flags. -/
theorem Spoils.not_faithful (spoils : state.Spoils move) (made : state.Made) : ¬ (state.step move).Faithful := by
  intro faithful
  cases spoils with
  | @overtaken index call unit key due parsed known otherFlags =>
      obtain ⟨ownFlags, live⟩ := made call (List.mem_of_getElem? due) unit parsed
      obtain ⟨path, flags, unsaved, stage⟩ := call
      cases parsed
      have stored : (state.step (.finish index)).units.stored? path = some (unit, key) := by
        simp only [Sharing.step, due]
        exact UnitStore.stored?_eq_some_iff.mpr ⟨Table.lookup_put_self .., known⟩
      have agrees := faithful.stored path unit key stored live
      rw [ownFlags] at agrees
      exact otherFlags agrees
  | @unkeyed path flags unsaved unit found live unknown byDefault otherFlags =>
      have stored : (state.step (.enter path flags unsaved)).units.stored? path = some (unit, default) := by
        have entering : state.units.enter path (flagsHash flags) =
            (some unit, { state.units with keys := Table.put path default state.units.keys }) := by
          simp [UnitStore.enter, UnitStore.get?, found, UnitStore.readKey, unknown, byDefault]
        rw [step_enter_found entering]
        exact UnitStore.stored?_eq_some_iff.mpr ⟨found, Table.lookup_put_self ..⟩
      exact otherFlags (faithful.stored path unit default stored live)

def run (moves : List Move) (state : Sharing) : Sharing := moves.foldl step state

theorem run_concat (moves : List Move) (move : Move) (state : Sharing) :
    run (moves ++ [move]) state = (run moves state).step move := by
  simp [run]

theorem Made.run (made : state.Made) (moves : List Move) : (run moves state).Made := by
  induction moves using List.reverseRecOn with
  | nil => exact made
  | append_singleton moves move ih =>
      rw [run_concat]
      exact ih.step move

/-- However the steps of any calls and removals are interleaved, the store and the calls agree on flags in every state
of a run exactly if no step of the run finishes a call that was overtaken by one with other flags, or gives a unit
without a key to a call for the default key. -/
theorem faithful_throughout_iff (workspace : Workspace) (moves : List Move) :
    (∀ earlier, earlier <+: moves → (run earlier { workspace }).Faithful) ↔
      ∀ earlier move, earlier ++ [move] <+: moves → ¬ (run earlier { workspace }).Spoils move := by
  have made (earlier : List Move) : (run earlier { workspace }).Made :=
    Made.run (fun call member => absurd member List.not_mem_nil) earlier
  constructor
  · intro faithful earlier move reached spoils
    have next := faithful (earlier ++ [move]) reached
    rw [run_concat] at next
    exact spoils.not_faithful (made earlier) next
  · intro calm earlier
    induction earlier using List.reverseRecOn with
    | nil => exact fun _ => ⟨nofun, nofun⟩
    | append_singleton earlier move ih =>
        intro reached
        rw [run_concat]
        exact (ih ((List.prefix_append earlier [move]).trans reached)).step (made earlier) (calm earlier move reached)

/-- Two calls for one file with different flags overlap, and the first one finishes last. The store has its unit under
the flags of the second one from then on, and gives it to every call with these flags. -/
theorem foreign_unit_after_overlap :
    let moves : List Move :=
      [.enter "/x.cpp" ["-DA"] [], .enter "/x.cpp" ["-DB"] [], .parse 0 {}, .parse 1 {}, .finish 1, .finish 0,
        .enter "/x.cpp" ["-DB"] []]
    let last := run moves {}
    (∃ unit, last.units.stored? "/x.cpp" = some (unit, flagsHash ["-DB"]) ∧ unit.isLive = true ∧
      flagsHash unit.flags ≠ flagsHash ["-DB"]) ∧
    ∃ call ∈ last.calls, ∃ unit, call.answer? = some unit ∧ unit.isLive = true ∧
      flagsHash unit.flags ≠ flagsHash call.flags := by
  intro moves last
  have differ : flagsHash ["-DA"] ≠ flagsHash ["-DB"] := by decide +kernel
  have stored : (last.units.stored? "/x.cpp").map (fun entry => (entry.1.flags, entry.1.isLive, entry.2)) =
      some (["-DA"], true, flagsHash ["-DB"]) := by decide +kernel
  have answered : (last.calls[2]?.bind fun call => call.answer?.map fun unit => (call.flags, unit.flags, unit.isLive)) =
      some (["-DB"], ["-DA"], true) := by decide +kernel
  constructor
  · obtain ⟨⟨unit, key⟩, isStored, facts⟩ := Option.map_eq_some_iff.mp stored
    simp only [Prod.mk.injEq] at facts
    obtain ⟨ofFirst, live, rfl⟩ := facts
    exact ⟨unit, isStored, live, by rwa [ofFirst]⟩
  · obtain ⟨call, isCall, gotten⟩ := Option.bind_eq_some_iff.mp answered
    obtain ⟨unit, isAnswer, facts⟩ := Option.map_eq_some_iff.mp gotten
    simp only [Prod.mk.injEq] at facts
    obtain ⟨ofSecond, ofFirst, live⟩ := facts
    exact ⟨call, List.mem_of_getElem? isCall, unit, isAnswer, live, by rwa [ofFirst, ofSecond]⟩

/-- A call whose steps are taken in a row fetches a unit as the engine does. -/
theorem run_getOrCreate_eq (state : Sharing) (path : String) (flags : List String) (unsaved : Unsaved)
    (frontend : Frontend) :
    let index := state.calls.length
    let last := run [.enter path flags unsaved, .parse index frontend, .finish index] state
    ∃ found isNew workspace, (Engine.getOrCreate path flags unsaved).run.run
        (state.units, { state.workspace with frontend := some frontend }) = (.ok (found, isNew), (last.units, workspace)) ∧
      last.calls = state.calls ++ [⟨path, flags, unsaved, .returned found⟩] := by
  intro index last
  let asked : Workspace := { state.workspace with frontend := some frontend }
  have reading : Engine.store.run.run (state.units, asked) = (.ok state.units, (state.units, asked)) := rfl
  unfold Engine.getOrCreate
  rw [Act.run_bind_ok reading]
  rcases entering : state.units.enter path (flagsHash flags) with ⟨found, units⟩
  cases found with
  | some unit =>
      have isLast : last = { state with units, calls := state.calls ++ [⟨path, flags, unsaved, .returned (some unit)⟩] } := by
        simp [last, run, step, entering, index]
      refine ⟨some unit, false, asked, ?_, by rw [isLast]⟩
      rw [isLast]
      rfl
  | none =>
      obtain ⟨made, later, creating, _⟩ :=
        TranslationUnit.run_create (show asked.frontend = some frontend from rfl) path flags unsaved
      have isLast : last = { units := units.finish path made, workspace := later,
                             calls := state.calls ++ [⟨path, flags, unsaved, .returned made⟩] } := by
        simp only [asked] at creating
        simp [last, run, step, entering, index, creating, advance]
      refine ⟨made, made.isSome, later, ?_, by rw [isLast]⟩
      rw [isLast, Act.run_bind_ok (Engine.run_changeStore _ state.units asked)]
      simp only
      rw [Act.run_bind_ok (Act.run_lift_ok creating _), Act.run_bind_ok (Engine.run_changeStore _ _ later)]
      rfl

end Sharing

end Typeahead.Frontend

import Typeahead.Proofs.KeptCompletions
import Typeahead.Proofs.RankedAnswers

namespace Typeahead.Completer

/-! Typing on after a completion has begun. A completer is watched: each request that it gathers candidates for is
noted. While requests stay at one place there is one such request, and all are answered out of what it brought, each
what its own query chooses. -/

variable {σ α β : Type}

/-- The state of a completer that is watched, with the requests that it has gathered candidates for. -/
structure Watched (σ : Type) where
  asked : List Value := []
  own : σ

section Watching

/-- What there is without the watching. -/
def unwatched (state : Watched σ × Workspace) : σ × Workspace := (state.1.own, state.2)

/-- Does something without noting it. -/
def quietly (act : Act (σ × Workspace) α) : Act (Watched σ × Workspace) α :=
  Act.on unwatched (fun part state => ({ state.1 with own := part.1 }, part.2)) act

def note (requests : List Value) : Act (Watched σ × Workspace) Unit :=
  modify fun state => ({ state.1 with asked := state.1.asked ++ requests }, state.2)

/-- The completer itself, but it notes what it gathers candidates for. -/
def watched (completer : Completer σ) : Completer (Watched σ) where
  core state := completer.core state.own
  putCore core state := { state with own := completer.putCore core state.own }
  supported := completer.supported
  subcommands := completer.subcommands
  applies request := quietly (completer.applies request)
  gather request := do
    note [request]
    quietly (completer.gather request)
  decides := completer.decides.map fun decides request => quietly (decides request)
  computes := completer.computes.map fun computes request => quietly (computes request)

theorem run_quietly (act : Act (σ × Workspace) α) (state : Watched σ × Workspace) :
    (quietly act).run.run state =
      ((act.run.run (unwatched state)).1,
        ({ state.1 with own := (act.run.run (unwatched state)).2.1 }, (act.run.run (unwatched state)).2.2)) := rfl

theorem quietly_bind (act : Act (σ × Workspace) α) (next : α → Act (σ × Workspace) β) :
    quietly (act >>= next) = quietly act >>= fun value => quietly (next value) := by
  funext state
  change (quietly (act >>= next)).run.run state = (quietly act >>= fun value => quietly (next value)).run.run state
  rcases running : act.run.run (unwatched state) with ⟨fault | value, after⟩
  · have quiet : (quietly act).run.run state = (.error fault, ({ state.1 with own := after.1 }, after.2)) := by
      rw [run_quietly, running]
    rw [Act.run_bind_error quiet, run_quietly, Act.run_bind_error running]
  · have quiet : (quietly act).run.run state = (.ok value, ({ state.1 with own := after.1 }, after.2)) := by
      rw [run_quietly, running]
    rw [Act.run_bind_ok quiet, run_quietly, Act.run_bind_ok running]
    rfl

variable (completer : Completer σ) (request : Value)

theorem kept?_watched : completer.watched.kept? request = quietly (completer.kept? request) := by
  funext state
  change (completer.watched.kept? request).run.run state = (quietly (completer.kept? request)).run.run state
  rw [run_quietly, run_kept?, run_kept?]
  rfl

theorem shouldUse_watched : completer.watched.shouldUse request = quietly (completer.shouldUse request) := by
  have undecided : completer.watched.decides = completer.decides.map fun decides request => quietly (decides request) := rfl
  unfold shouldUse
  rw [undecided]
  cases completer.decides with
  | some decides => rfl
  | none =>
      simp only [Option.map_none]
      rw [quietly_bind]
      refine bind_congr fun applying => ?_
      cases applying with
      | false => rfl
      | true =>
          simp only [Bool.not_true, Bool.false_eq_true, if_false]
          rw [quietly_bind, kept?_watched]
          refine bind_congr fun kept => ?_
          rcases kept with _ | (_ | _) <;> rfl

theorem consult_watched : completer.watched.consult request = quietly (completer.consult request) := by
  have looking : (do return Verdict.ofKept (← completer.watched.kept? request)) =
      quietly (do return Verdict.ofKept (← completer.kept? request)) := by
    rw [quietly_bind, kept?_watched]
    rfl
  unfold consult
  rw [quietly_bind]
  refine bind_congr fun forced => ?_
  cases forced with
  | true => exact looking
  | false =>
      simp only [Bool.not_false, if_true]
      rw [quietly_bind, shouldUse_watched]
      refine bind_congr fun used => ?_
      cases used with
      | false => rfl
      | true => exact looking

/-- The requests that are noted on a verdict: the request itself, if candidates are gathered for it. -/
def Verdict.asks (request : Value) : Verdict → List Value
  | .missing => [request]
  | .declined | .kept _ => []

theorem note_nil : (note [] : Act (Watched σ × Workspace) Unit) = pure () := by
  funext state
  change (Except.ok (), ({ state.1 with asked := state.1.asked ++ [] }, state.2)) = (Except.ok (), state)
  rw [List.append_nil]

theorem answer_watched (verdict : Verdict) :
    completer.watched.answer request verdict =
      (do note (verdict.asks request); quietly (completer.answer request verdict)) := by
  cases verdict with
  | declined =>
      unfold Verdict.asks
      rw [note_nil, pure_bind]
      rfl
  | kept completions =>
      unfold Verdict.asks
      rw [note_nil, pure_bind]
      rfl
  | missing =>
      -- Gathering is the one thing that is noted, and it comes first.
      unfold answer candidates.fresh
      simp only [quietly_bind, bind_assoc]
      change (note [request] >>= fun _ => quietly (completer.gather request)) >>= _ = _
      rw [bind_assoc]
      rfl

def asks (state : σ × Workspace) : List Value :=
  match ((completer.consult request).run.run state).1 with
  | .ok verdict => verdict.asks request
  | .error _ => []

variable {completer}

theorem run_compute_watched (plain : completer.computes = none) (state : Watched σ × Workspace) :
    (completer.watched.compute request).run.run state =
      (((completer.compute request).run.run (unwatched state)).1,
        (⟨state.1.asked ++ completer.asks request (unwatched state), (completer.after request (unwatched state)).1⟩,
          (completer.after request (unwatched state)).2)) := by
  have plainly : completer.watched.computes = none := congrArg (Option.map _) plain
  unfold asks after
  rw [compute_eq plainly, compute_eq plain, consult_watched]
  rcases running : (completer.consult request).run.run (unwatched state) with ⟨fault | verdict, later⟩
  · have quiet : (quietly (completer.consult request)).run.run state =
        (.error fault, ({ state.1 with own := later.1 }, later.2)) := by
      rw [run_quietly, running]
    rw [Act.run_bind_error quiet, Act.run_bind_error running]
    simp
  · have quiet : (quietly (completer.consult request)).run.run state =
        (.ok verdict, ({ state.1 with own := later.1 }, later.2)) := by
      rw [run_quietly, running]
    rw [Act.run_bind_ok quiet, Act.run_bind_ok running, answer_watched]
    rfl

theorem unwatched_after (plain : completer.computes = none) (state : Watched σ × Workspace) :
    unwatched (completer.watched.after request state) = completer.after request (unwatched state) := by
  change unwatched ((completer.watched.compute request).run.run state).2 = _
  rw [run_compute_watched request plain]
  rfl

theorem asked_after (plain : completer.computes = none) (state : Watched σ × Workspace) :
    (completer.watched.after request state).1.asked =
      state.1.asked ++ completer.asks request (unwatched state) := by
  change ((completer.watched.compute request).run.run state).2.1.asked = _
  rw [run_compute_watched request plain]

end Watching

/-- The answers to requests that are made one after another. -/
def answers (completer : Completer σ) : σ × Workspace → List Value → List (Except Fault Value)
  | _, [] => []
  | state, request :: rest =>
    ((completer.compute request).run.run state).1 :: completer.answers (completer.after request state) rest

theorem answers_watched {completer : Completer σ} (plain : completer.computes = none) (requests : List Value)
    (state : Watched σ × Workspace) :
    completer.watched.answers state requests = completer.answers (unwatched state) requests := by
  induction requests generalizing state with
  | nil => rfl
  | cons request rest ih =>
      unfold answers
      rw [ih, unwatched_after request plain, run_compute_watched request plain]

section Answering

open Ranking

/-- What a request is answered out of some items: all of them as they are while nothing is typed, nothing if there are
none, and otherwise those that its query chooses. -/
structure Answered (items : List Value) (request : Value) (answer : Except Fault Value) : Prop where
  whole : ∀ query, request.field "query" = .ok query → query.isPresent = false → answer = .ok (.list items)
  empty : ∀ query, request.field "query" = .ok query → items = [] → answer = .ok (.list [])
  filtered : ∀ property query, request.field "query" = .ok (.text query) → query ≠ "" →
    (∀ letter ∈ Bytes.ofString query, Letter.isAscii letter) → Filterable property items →
      ∃ kept, answer = .ok (.list kept) ∧
        Chosen (Bytes.ofString query) (fun item => Bytes.ofString (textOf property item)) items kept

theorem answered_select (items : List Value) (request : Value) : Answered items request (select (.list items) request) where
  whole query asked nothing := by
    simp only [select, asked, bind, Except.bind, nothing]
    rfl
  empty query asked none := by
    subst none
    simp only [select, asked, bind, Except.bind]
    split <;> rfl
  filtered property query asked typed ascii filterable := by
    have present : (Value.text query).isPresent = true := by simpa [Value.isPresent] using typed
    simp only [select, asked, bind, Except.bind, present, if_true]
    exact rankAnswer_chooses filterable typed ascii

/-- What a later request is answered: the items, filtered by its query; nothing if there are none. -/
def selectKept (items : List Value) (request : Value) : Except Fault Value :=
  if items.isEmpty then .ok (.list []) else select (.list items) request

theorem answered_selectKept (items : List Value) (request : Value) : Answered items request (selectKept items request) := by
  cases items with
  | nil => exact ⟨fun _ _ _ => rfl, fun _ _ _ => rfl, fun _ _ _ _ _ filterable => by simpa using filterable.shows⟩
  | cons first rest => exact answered_select (first :: rest) request

end Answering

section Typing

/-- A request that is not forced, for which the completer applies. -/
def Triggered (completer : Completer σ) (request : Value) (state : σ × Workspace) : Prop :=
  isForced request = .ok false ∧ ((completer.applies request).run.run state).1 = .ok true

/-- Requests that are made one after another at the place of the first one, each of them triggered. -/
def TypesOn (completer : Completer σ) (first : Value) : σ × Workspace → List Value → Prop
  | _, [] => True
  | state, request :: rest => completer.Triggered request state ∧ SamePlace request first ∧
    completer.TypesOn first (completer.after request state) rest

variable {completer : Completer σ} (uses : completer.UsesCache) (undecided : completer.decides = none)
  {request first : Value} {state : σ × Workspace} {line column : Value} {items : List Value}
include uses undecided

theorem UsesCache.run_consult_of_triggered (triggered : completer.Triggered request state)
    (spot : place request = .ok (line, column)) :
    (completer.consult request).run.run state =
      (.ok (if worthAsking ((completer.cacheOf state).get? line column) then
          .ofKept ((completer.cacheOf state).get? line column) else .declined),
        ((completer.applies request).run.run state).2) := by
  obtain ⟨unforced, applied⟩ := triggered
  have left := uses.applies request state
  rcases applying : (completer.applies request).run.run state with ⟨result, after⟩
  rw [applying] at applied left
  cases applied
  have asking := run_shouldUse_of_applies undecided applying
  simp only [spot, Except.map, left] at asking
  cases worth : worthAsking ((completer.cacheOf state).get? line column) with
  | true =>
      rw [worth] at asking
      rw [run_consult_of_used unforced asking]
      simp [spot, Except.map, left]
  | false =>
      rw [worth] at asking
      rw [run_consult_of_unused unforced asking]
      simp

theorem UsesCache.first_typed (triggered : completer.Triggered first state) (spot : place first = .ok (line, column))
    (nothing : (completer.cacheOf state).isFor line column = false)
    (gathers : ((completer.gather first).run.run ((completer.applies first).run.run state).2).1 = .ok (.list items)) :
    ((completer.compute first).run.run state).1 = select (.list items) first ∧
      completer.asks first state = [first] ∧
      completer.cacheOf (completer.after first state) = ⟨line, column, .list items⟩ := by
  have unkept : (completer.cacheOf state).get? line column = none := by simp [Cache.get?, nothing]
  have missing := uses.run_consult_of_triggered undecided triggered spot
  simp only [unkept, worthAsking, if_true, Verdict.ofKept] at missing
  rcases gathering : (completer.gather first).run.run ((completer.applies first).run.run state).2 with ⟨result, last⟩
  rw [gathering] at gathers
  cases gathers
  have running := run_compute_of_gathered uses.computes missing spot gathering
  refine ⟨by rw [running], by simp [asks, missing, Verdict.asks], ?_⟩
  unfold after
  rw [running]
  exact uses.cacheOf_changeCore (fun core => { core with cache := ⟨line, column, .list items⟩ }) last

theorem UsesCache.later_typed (triggered : completer.Triggered request state)
    (cached : completer.cacheOf state = ⟨line, column, .list items⟩) (spot : place first = .ok (line, column))
    (same : SamePlace request first) :
    ((completer.compute request).run.run state).1 = selectKept items request ∧
      completer.asks request state = [] ∧ completer.cacheOf (completer.after request state) = completer.cacheOf state := by
  obtain ⟨ownLine, ownColumn, _, _, ownSpot, firstSpot, isFor⟩ := same
  rw [spot] at firstSpot
  cases firstSpot
  have kept : (completer.cacheOf state).get? ownLine ownColumn = some (.list items) := by
    rw [cached]
    exact Cache.get?_eq_some_iff.mpr ⟨isFor, rfl⟩
  have consulted : (completer.consult request).run.run state =
      (.ok (if items.isEmpty then .declined else .kept (.list items)),
        ((completer.applies request).run.run state).2) := by
    rw [uses.run_consult_of_triggered undecided triggered ownSpot, kept]
    cases items <;> rfl
  have running : (completer.compute request).run.run state =
      (selectKept items request, ((completer.applies request).run.run state).2) := by
    rw [run_compute_of_verdict uses.computes consulted]
    cases items <;> rfl
  refine ⟨by rw [running], ?_, ?_⟩
  · unfold asks
    rw [consulted]
    cases items <;> rfl
  · unfold after
    rw [running]
    exact uses.applies request state

theorem UsesCache.later_all_typed (later : List Value) {state : Watched σ × Workspace}
    (cached : completer.cacheOf (unwatched state) = ⟨line, column, .list items⟩) (spot : place first = .ok (line, column))
    (typing : completer.TypesOn first (unwatched state) later) :
    completer.answers (unwatched state) later = later.map (selectKept items) ∧
      (completer.watched.afterAll state later).1.asked = state.1.asked := by
  -- What is kept does not change from one request to the next, so that each finds what the first one left.
  induction later generalizing state with
  | nil => exact ⟨rfl, rfl⟩
  | cons request rest ih =>
      obtain ⟨triggered, same, typing⟩ := typing
      obtain ⟨answered, asks, stays⟩ := uses.later_typed undecided triggered cached spot same
      rw [← unwatched_after request uses.computes] at stays typing
      obtain ⟨restAnswered, restAsked⟩ := ih (stays.trans cached) typing
      constructor
      · unfold answers
        rw [answered, ← unwatched_after request uses.computes, restAnswered]
        rfl
      · change (completer.watched.afterAll (completer.watched.after request state) rest).1.asked = _
        rw [restAsked, asked_after request uses.computes, asks, List.append_nil]

/-- While requests are triggered at one place for which nothing was kept, candidates are gathered once, for the first
request. Each request is answered what its own query chooses of them, the best first; if there are none, the later ones
are answered nothing. -/
theorem UsesCache.typing_on_gathers_once {start : σ × Workspace} {later : List Value}
    (triggered : completer.Triggered first start) (spot : place first = .ok (line, column))
    (nothing : (completer.cacheOf start).isFor line column = false)
    (gathers : ((completer.gather first).run.run ((completer.applies first).run.run start).2).1 = .ok (.list items))
    (typing : completer.TypesOn first (completer.after first start) later) :
    List.Forall₂ (Answered items) (first :: later) (completer.answers start (first :: later)) ∧
      completer.answers start (first :: later) = select (.list items) first :: later.map (selectKept items) ∧
      completer.watched.answers ({ own := start.1 }, start.2) (first :: later) = completer.answers start (first :: later) ∧
      (completer.watched.afterAll ({ own := start.1 }, start.2) (first :: later)).1.asked = [first] := by
  obtain ⟨answered, asks, cached⟩ := uses.first_typed undecided triggered spot nothing gathers
  have begun : unwatched (completer.watched.after first ({ own := start.1 }, start.2)) = completer.after first start :=
    unwatched_after first uses.computes _
  rw [← begun] at cached typing
  obtain ⟨restAnswered, restAsked⟩ := uses.later_all_typed undecided later cached spot typing
  have selected : completer.answers start (first :: later) = select (.list items) first :: later.map (selectKept items) := by
    unfold answers
    rw [answered, ← begun, restAnswered]
  refine ⟨?_, selected, answers_watched uses.computes _ _, ?_⟩
  · rw [selected]
    refine .cons (answered_select items first) ?_
    rw [List.forall₂_map_right_iff, List.forall₂_same]
    exact fun request _ => answered_selectKept items request
  · exact restAsked.trans ((asked_after first uses.computes _).trans asks)

end Typing

/-- A session in which two members are found, and nothing else after them. -/
def twoMembers : Session.PlainState × Workspace :=
  (⟨{ settings := ⟨[], .int 2, [("cpp", ["."])]⟩ }, [.list [.text "beta", .text "alpha"]]⟩, {})

open Ranking in
theorem typing_on_gathers_once_of_members :
    let typed (query : String) : Value := memberRequest "/a.cpp" "foo" query
    (Session.plain [] []).answers twoMembers [typed "", typed "a", typed "al"] =
      [.ok (.list [.text "beta", .text "alpha"]), .ok (.list [.text "alpha", .text "beta"]), .ok (.list [.text "alpha"])] ∧
    ((Session.plain [] []).watched.afterAll ({ own := twoMembers.1 }, twoMembers.2)
        [typed "", typed "a", typed "al"]).1.asked = [typed ""] := by
  intro typed
  have triggered : (Session.plain [] []).Triggered (typed "") twoMembers := ⟨rfl, rfl⟩
  have spot : place (typed "") = .ok (.int 0, .int 4) := rfl
  have gathers : (((Session.plain [] []).gather (typed "")).run.run
      (((Session.plain [] []).applies (typed "")).run.run twoMembers).2).1 =
      .ok (.list [.text "beta", .text "alpha"]) := rfl
  have typing : (Session.plain [] []).TypesOn (typed "")
      ((Session.plain [] []).after (typed "") twoMembers) [typed "a", typed "al"] :=
    ⟨⟨rfl, rfl⟩, ⟨_, _, _, _, rfl, spot, rfl, rfl⟩, ⟨rfl, rfl⟩, ⟨_, _, _, _, rfl, spot, rfl, rfl⟩, trivial⟩
  obtain ⟨answered, _, _, asked⟩ := (usesCache_plain [] []).typing_on_gathers_once rfl triggered spot rfl gathers typing
  refine ⟨?_, asked⟩
  have filterable : Filterable "" [.text "beta", .text "alpha"] :=
    ⟨by simp [HaveTexts, text?], ⟨_, rfl, by decide, by decide⟩, by simp⟩
  generalize (Session.plain [] []).answers twoMembers [typed "", typed "a", typed "al"] = given at answered ⊢
  obtain _ | ⟨untyped, _ | ⟨ofOne, _ | ⟨ofTwo, _ | _⟩⟩⟩ := answered
  obtain ⟨one, isOne, choosesOne⟩ := ofOne.filtered "" "a" rfl (by decide) (by decide +kernel) filterable
  obtain ⟨two, isTwo, choosesTwo⟩ := ofTwo.filtered "" "al" rfl (by decide) (by decide +kernel) filterable
  have both : one = [.text "alpha", .text "beta"] :=
    choosesOne.pair (by decide +kernel) (by decide +kernel) (by decide +kernel)
  have single : two = [.text "alpha"] := by
    have lacking : ¬ Keeps (Bytes.ofString "al") (Bytes.ofString "beta") := by decide +kernel
    have keeping : Keeps (Bytes.ofString "al") (Bytes.ofString "alpha") := by decide +kernel
    simpa [textOf, text?, lacking, keeping] using choosesTwo.exactly
  rw [untyped.whole (.text "") rfl rfl, isOne, isTwo, both, single]

end Typeahead.Completer

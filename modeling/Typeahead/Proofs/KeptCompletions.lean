import Mathlib.Data.List.Induction
import Typeahead.Proofs.Acts
import Typeahead.Proofs.Since
import Typeahead.Session.Completers

namespace Typeahead.Completer

/-! When a completer answers from the completions that it keeps. An answer is split into what the completer finds out
before it gathers anything, and the rest; the kept completions are followed through any run of requests. -/

variable {σ : Type}

/-- The completions that a completer keeps. -/
def cacheOf (completer : Completer σ) (state : σ × Workspace) : Cache := (completer.core state.1).cache

/-- The kept completions stay as they are, whether or not the act fails. -/
def Leaves {α : Type} (completer : Completer σ) (act : Act (σ × Workspace) α) : Prop :=
  act.Keeps fun before after => completer.cacheOf after = completer.cacheOf before

/-- A completer that answers out of what it keeps, and leaves that alone in whatever it does of its own. -/
structure UsesCache (completer : Completer σ) : Prop where
  computes : completer.computes = none
  core_putCore : ∀ core state, completer.core (completer.putCore core state) = core
  applies : ∀ request, completer.Leaves (completer.applies request)
  gather : ∀ request, completer.Leaves (completer.gather request)
  decides : ∀ decides, completer.decides = some decides → ∀ request, completer.Leaves (decides request)

/-- Where the completions of a request start: its line and its column. -/
def place (request : Value) : Except Fault (Value × Value) := do
  let line ← request.field "line_num"
  let column ← request.field "start_column"
  return (line, column)

/-- Two requests have a line and a column in common. -/
def SamePlace (request other : Value) : Prop :=
  ∃ line column otherLine otherColumn, place request = .ok (line, column) ∧
    place other = .ok (otherLine, otherColumn) ∧ line.same otherLine = true ∧ column.same otherColumn = true

theorem Cache.get?_eq_some_iff {cache : Cache} {line column completions : Value} :
    cache.get? line column = some completions ↔
      (line.same cache.line = true ∧ column.same cache.column = true) ∧ cache.completions = completions := by
  simp [Cache.get?, Cache.isFor]

/-- What is found out about a request before anything is gathered for it. -/
inductive Verdict where
  | declined
  | kept (completions : Value)
  | missing

def Verdict.ofKept : Option Value → Verdict
  | some completions => if completions.isPresent then .kept completions else .missing
  | none => .missing

theorem Verdict.ofKept_eq_kept_iff {kept : Option Value} {completions : Value} :
    ofKept kept = .kept completions ↔ kept = some completions ∧ completions.isPresent = true := by
  cases kept with
  | none => simp [ofKept]
  | some found => cases present : found.isPresent <;> grind [ofKept]

/-- Filters completions by the query of a request. -/
def select (found request : Value) : Except Fault Value := do
  let query ← request.field "query"
  if query.isPresent then Ranking.rankAnswer found query else return found

section Split

variable (completer : Completer σ) (request : Value)

def consult : Act (σ × Workspace) Verdict := do
  if !(← isForced request) then
    if !(← completer.shouldUse request) then return .declined
  return .ofKept (← completer.kept? request)

/-- The rest of an answer. Only here candidates are gathered. -/
def answer : Verdict → Act (σ × Workspace) Value
  | .declined => return .list []
  | .kept completions => select completions request
  | .missing => do select (← candidates.fresh completer request) request

end Split

variable {completer : Completer σ} {request : Value} {state : σ × Workspace}

theorem lift_select (found request : Value) :
    (do
      let query ← request.field "query"
      if query.isPresent then Ranking.rankAnswer found query else return found : Act (σ × Workspace) Value) =
      liftM (select found request) := by
  unfold select
  rw [liftM_bind]
  refine bind_congr fun query => ?_
  split <;> rfl

theorem select_candidates (completer : Completer σ) (request : Value) :
    (do let found ← completer.candidates request; select found request) =
      (do completer.answer request (.ofKept (← completer.kept? request))) := by
  unfold candidates
  rw [bind_assoc]
  refine bind_congr fun kept => ?_
  cases kept with
  | none => rfl
  | some completions => cases present : completions.isPresent <;> simp [Verdict.ofKept, present, answer]

theorem compute_eq (plain : completer.computes = none) (request : Value) :
    completer.compute request = completer.consult request >>= completer.answer request := by
  -- Forced or not, a request that goes on comes to the same rest.
  have rest : (do
      let found ← completer.candidates request
      let query ← request.field "query"
      if query.isPresent then Ranking.rankAnswer found query else return found) =
      (do completer.answer request (.ofKept (← completer.kept? request))) := by
    rw [← select_candidates]
    exact bind_congr fun found => lift_select found request
  unfold compute consult
  rw [plain, bind_assoc]
  refine bind_congr fun forced => ?_
  cases forced with
  | true =>
      simp only [Bool.not_true, Bool.false_eq_true, if_false, bind_assoc, pure_bind]
      exact rest
  | false =>
      simp only [Bool.not_false, if_true]
      rw [bind_assoc]
      refine bind_congr fun used => ?_
      cases used with
      | false => rfl
      | true =>
          simp only [Bool.not_true, Bool.false_eq_true, if_false, bind_assoc, pure_bind]
          exact rest

section Frame

/-! A completer keeps a relation in what it does for a request if it does so in finding out whether it applies, in
gathering completions and in keeping them. -/

variable {relation : σ × Workspace → σ × Workspace → Prop} [Act.Chains relation]

theorem keeps_kept? (request : Value) : (completer.kept? request).Keeps relation := by
  refine Act.keeps_except_bind fun line => Act.keeps_except_bind fun column => ?_
  exact (Act.keeps_get.bind fun _ => Act.keeps_pure _).bind fun _ => Act.keeps_pure _

variable (cached : ∀ cache, (completer.changeCore fun core => { core with cache }).Keeps relation)

include cached

theorem keeps_shouldUse (undecided : completer.decides = none)
    (applies : ∀ request, (completer.applies request).Keeps relation) (request : Value) :
    (completer.shouldUse request).Keeps relation := by
  unfold shouldUse
  rw [undecided]
  refine (applies request).bind fun isFor => ?_
  split
  · exact (cached {}).bind fun _ => Act.keeps_pure _
  · refine (keeps_kept? request).bind fun kept => ?_
    split <;> exact Act.keeps_pure _

theorem keeps_answer (gathers : ∀ request, (completer.gather request).Keeps relation) (request : Value)
    (verdict : Verdict) : (completer.answer request verdict).Keeps relation := by
  cases verdict with
  | declined => exact Act.keeps_pure _
  | kept completions => exact Act.keeps_except _
  | missing =>
      refine .bind ?_ fun found => Act.keeps_except _
      refine (gathers request).bind fun found => Act.keeps_except_bind fun line => Act.keeps_except_bind fun column => ?_
      exact (cached _).bind fun _ => Act.keeps_pure _

theorem keeps_compute (plain : completer.computes = none)
    (uses : ∀ request, (completer.shouldUse request).Keeps relation)
    (gathers : ∀ request, (completer.gather request).Keeps relation) (request : Value) :
    (completer.compute request).Keeps relation := by
  have rest : (do return Verdict.ofKept (← completer.kept? request)).Keeps relation :=
    (keeps_kept? request).bind fun _ => Act.keeps_pure _
  have consulted : (completer.consult request).Keeps relation := by
    refine Act.keeps_except_bind fun forced => ?_
    split
    · refine (uses request).bind fun used => ?_
      split
      · exact Act.keeps_pure _
      · exact rest
    · exact rest
  rw [compute_eq plain]
  exact consulted.bind (keeps_answer cached gathers request)

end Frame

theorem run_kept? (completer : Completer σ) (request : Value) (state : σ × Workspace) :
    (completer.kept? request).run.run state =
      ((place request).map fun spot => (completer.cacheOf state).get? spot.1 spot.2, state) := by
  unfold kept? place
  cases request.field "line_num" with
  | error fault => rfl
  | ok line => cases request.field "start_column" <;> rfl

/-- Whether it is worth asking, given what is kept for a place: not where nothing was found before. -/
def worthAsking : Option Value → Bool
  | some .null | none => true
  | some completions => completions.isPresent

theorem run_shouldUse_of_applies (undecided : completer.decides = none) {after : σ × Workspace}
    (applying : (completer.applies request).run.run state = (.ok true, after)) :
    (completer.shouldUse request).run.run state =
      ((place request).map fun spot => worthAsking ((completer.cacheOf after).get? spot.1 spot.2), after) := by
  unfold shouldUse
  rw [undecided]
  change (completer.applies request >>= _).run.run state = _
  rw [Act.run_bind_ok applying]
  have looked := completer.run_kept? request after
  cases spot : place request with
  | error fault =>
      rw [spot] at looked
      exact Act.run_bind_error looked
  | ok found =>
      rw [spot] at looked
      refine (Act.run_bind_ok looked).trans ?_
      dsimp only [Except.map]
      generalize (completer.cacheOf after).get? found.1 found.2 = kept
      rcases kept with _ | (_ | _) <;> rfl

section Consult

theorem run_ofKept (completer : Completer σ) (request : Value) (state : σ × Workspace) :
    (do return Verdict.ofKept (← completer.kept? request)).run.run state =
      ((place request).map fun spot => .ofKept ((completer.cacheOf state).get? spot.1 spot.2), state) := by
  have looked := completer.run_kept? request state
  cases spot : place request with
  | error fault =>
      rw [spot] at looked
      exact Act.run_bind_error looked
  | ok found =>
      rw [spot] at looked
      exact Act.run_bind_ok looked

theorem consult_eq_of_forced (forced : isForced request = .ok true) :
    completer.consult request = do return .ofKept (← completer.kept? request) := by
  unfold consult
  rw [forced]
  rfl

theorem consult_eq_of_unforced (unforced : isForced request = .ok false) :
    completer.consult request = do
      if !(← completer.shouldUse request) then return .declined
      return .ofKept (← completer.kept? request) := by
  unfold consult
  rw [unforced]
  rfl

variable {after : σ × Workspace}

theorem run_consult_of_used (unforced : isForced request = .ok false)
    (asking : (completer.shouldUse request).run.run state = (.ok true, after)) :
    (completer.consult request).run.run state =
      ((place request).map fun spot => .ofKept ((completer.cacheOf after).get? spot.1 spot.2), after) := by
  rw [consult_eq_of_unforced unforced, Act.run_bind_ok asking]
  exact completer.run_ofKept request after

theorem run_consult_of_unused (unforced : isForced request = .ok false)
    (asking : (completer.shouldUse request).run.run state = (.ok false, after)) :
    (completer.consult request).run.run state = (.ok .declined, after) := by
  rw [consult_eq_of_unforced unforced, Act.run_bind_ok asking]
  rfl

theorem run_consult_of_fault {fault : Fault} (unforced : isForced request = .ok false)
    (asking : (completer.shouldUse request).run.run state = (.error fault, after)) :
    (completer.consult request).run.run state = (.error fault, after) := by
  rw [consult_eq_of_unforced unforced, Act.run_bind_error asking]

end Consult

/-- A request that comes without a trigger makes the completer forget what it keeps. -/
def Clears (completer : Completer σ) (request : Value) (state : σ × Workspace) : Prop :=
  completer.decides = none ∧ isForced request = .ok false ∧ ((completer.applies request).run.run state).1 = .ok false

/-- The completer is used for a request: it is forced to, or it should be used. -/
def Admits (completer : Completer σ) (request : Value) (state : σ × Workspace) : Prop :=
  isForced request = .ok true ∨
    isForced request = .ok false ∧ ((completer.shouldUse request).run.run state).1 = .ok true

/-- What a request can come to before anything is gathered. -/
inductive Consulted (completer : Completer σ) (request : Value) (state : σ × Workspace) :
    Except Fault Verdict × σ × Workspace → Prop
  | cleared {after : σ × Workspace} (clears : completer.Clears request state) (turnedAway : ¬ completer.Admits request state)
      (empty : completer.cacheOf after = {}) : Consulted completer request state (.ok .declined, after)
  | turnedAway {verdict : Except Fault Verdict} {after : σ × Workspace} (stays : ¬ completer.Clears request state)
      (turnedAway : ¬ completer.Admits request state) (answered : ∀ found, verdict = .ok found → found = .declined)
      (same : completer.cacheOf after = completer.cacheOf state) : Consulted completer request state (verdict, after)
  | admitted {after : σ × Workspace} (stays : ¬ completer.Clears request state) (admits : completer.Admits request state)
      (same : completer.cacheOf after = completer.cacheOf state) :
      Consulted completer request state
        ((place request).map fun spot => .ofKept ((completer.cacheOf state).get? spot.1 spot.2), after)

section Steps

variable (uses : completer.UsesCache)
include uses

theorem UsesCache.cacheOf_changeCore (change : Core → Core) (state : σ × Workspace) :
    completer.cacheOf ((completer.changeCore change).run.run state).2 = (change (completer.core state.1)).cache := by
  change (completer.core (completer.putCore _ state.1)).cache = _
  rw [uses.core_putCore]

theorem UsesCache.run_shouldUse (request : Value) (state : σ × Workspace) :
    let ended := (completer.shouldUse request).run.run state
    (completer.decides = none ∧ ((completer.applies request).run.run state).1 = .ok false ∧ ended.1 = .ok false ∧
      completer.cacheOf ended.2 = {}) ∨
    (¬ (completer.decides = none ∧ ((completer.applies request).run.run state).1 = .ok false) ∧
      completer.cacheOf ended.2 = completer.cacheOf state) := by
  cases decided : completer.decides with
  | some decides =>
      refine Or.inr ⟨nofun, ?_⟩
      unfold shouldUse
      rw [decided]
      exact uses.decides decides decided request state
  | none =>
      have left := uses.applies request state
      rcases applying : (completer.applies request).run.run state with ⟨fault | _ | _, after⟩ <;> rw [applying] at left
      · have running : (completer.shouldUse request).run.run state = (.error fault, after) := by
          unfold shouldUse
          rw [decided]
          exact Act.run_bind_error applying
        rw [running]
        exact Or.inr ⟨nofun, left⟩
      · have running : (completer.shouldUse request).run.run state =
            (.ok false, ((completer.invalidate).run.run after).2) := by
          unfold shouldUse
          rw [decided]
          exact Act.run_bind_ok applying
        rw [running]
        exact Or.inl ⟨rfl, rfl, rfl, uses.cacheOf_changeCore (fun core => { core with cache := {} }) after⟩
      · rw [run_shouldUse_of_applies decided applying]
        exact Or.inr ⟨nofun, left⟩

theorem UsesCache.consulted (request : Value) (state : σ × Workspace) :
    completer.Consulted request state ((completer.consult request).run.run state) := by
  rcases forced : isForced request with fault | _ | _
  · have running : (completer.consult request).run.run state = (.error fault, state) := by
      unfold consult
      rw [forced]
      rfl
    rw [running]
    exact .turnedAway (by simp [Clears, forced]) (by simp [Admits, forced]) nofun rfl
  · have asked := uses.run_shouldUse request state
    rcases asking : (completer.shouldUse request).run.run state with ⟨fault | _ | _, after⟩ <;>
      simp only [asking] at asked
    · rw [run_consult_of_fault forced asking]
      obtain ⟨_, _, wrong, _⟩ | ⟨stays, same⟩ := asked
      · cases wrong
      · exact .turnedAway (fun clears => stays ⟨clears.1, clears.2.2⟩) (by simp [Admits, forced, asking]) nofun same
    · rw [run_consult_of_unused forced asking]
      have turnedAway : ¬ completer.Admits request state := by simp [Admits, forced, asking]
      obtain ⟨undecided, applying, _, empty⟩ | ⟨stays, same⟩ := asked
      · exact .cleared ⟨undecided, forced, applying⟩ turnedAway empty
      · exact .turnedAway (fun clears => stays ⟨clears.1, clears.2.2⟩) turnedAway (by simp) same
    · rw [run_consult_of_used forced asking]
      obtain ⟨_, _, wrong, _⟩ | ⟨stays, same⟩ := asked
      · simp at wrong
      · rw [same]
        exact .admitted (fun clears => stays ⟨clears.1, clears.2.2⟩) (Or.inr ⟨forced, by rw [asking]⟩) same
  · rw [consult_eq_of_forced forced, run_ofKept]
    exact .admitted (by simp [Clears, forced]) (Or.inl forced) rfl

theorem UsesCache.verdict_eq_kept_iff (request completions : Value) (state : σ × Workspace) :
    ((completer.consult request).run.run state).1 = .ok (.kept completions) ↔
      completer.Admits request state ∧ completions.isPresent = true ∧
        ∃ line column, place request = .ok (line, column) ∧
          (completer.cacheOf state).get? line column = some completions := by
  have consulted := uses.consulted request state
  generalize (completer.consult request).run.run state = ended at consulted ⊢
  cases consulted with
  | cleared clears turnedAway empty => simp [turnedAway]
  | turnedAway stays turnedAway answered same =>
      refine iff_of_false (fun kept => ?_) fun served => turnedAway served.1
      cases answered _ kept
  | admitted stays admits same =>
      rcases spot : place request with fault | ⟨line, column⟩
      · simp [Except.map]
      · simp only [Except.map, Except.ok.injEq, Verdict.ofKept_eq_kept_iff, admits, true_and, Prod.mk.injEq]
        grind

end Steps

/-- Candidates are gathered for a request, and these are what comes of it. -/
def Gathers (completer : Completer σ) (request : Value) (state : σ × Workspace) (found : Value) : Prop :=
  ∃ after, (completer.consult request).run.run state = (.ok .missing, after) ∧
    ((completer.gather request).run.run after).1 = .ok found

/-- What is kept is forgotten or gives way to what is gathered. -/
def Replaces (completer : Completer σ) (request : Value) (state : σ × Workspace) : Prop :=
  completer.Clears request state ∨ ∃ found, completer.Gathers request state found

/-- The state that a request leaves behind, whether or not it is answered. -/
def after (completer : Completer σ) (request : Value) (state : σ × Workspace) : σ × Workspace :=
  ((completer.compute request).run.run state).2

theorem run_compute_of_verdict {verdict : Verdict} {later : σ × Workspace} (plain : completer.computes = none)
    (consulted : (completer.consult request).run.run state = (.ok verdict, later)) :
    (completer.compute request).run.run state = (completer.answer request verdict).run.run later := by
  rw [compute_eq plain, Act.run_bind_ok consulted]

theorem run_compute_of_fault {fault : Fault} {later : σ × Workspace} (plain : completer.computes = none)
    (consulted : (completer.consult request).run.run state = (.error fault, later)) :
    (completer.compute request).run.run state = (.error fault, later) := by
  rw [compute_eq plain, Act.run_bind_error consulted]

section After

theorem run_fresh {line column found : Value} {later : σ × Workspace} (spot : place request = .ok (line, column))
    (gathering : (completer.gather request).run.run state = (.ok found, later)) :
    (candidates.fresh completer request).run.run state =
      (.ok found, ((completer.changeCore fun core => { core with cache := ⟨line, column, found⟩ }).run.run later).2) := by
  unfold candidates.fresh
  rw [Act.run_bind_ok gathering]
  unfold place at spot
  cases lineField : request.field "line_num" with
  | error fault =>
      rw [lineField] at spot
      cases spot
  | ok line' =>
      rw [lineField] at spot
      cases columnField : request.field "start_column" with
      | error fault =>
          rw [columnField] at spot
          cases spot
      | ok column' =>
          rw [columnField] at spot
          cases spot
          rfl

theorem run_compute_of_gathered {line column found : Value} {later last : σ × Workspace} (plain : completer.computes = none)
    (missing : (completer.consult request).run.run state = (.ok .missing, later))
    (spot : place request = .ok (line, column))
    (gathering : (completer.gather request).run.run later = (.ok found, last)) :
    (completer.compute request).run.run state =
      (select found request,
        ((completer.changeCore fun core => { core with cache := ⟨line, column, found⟩ }).run.run last).2) := by
  rw [run_compute_of_verdict plain missing]
  unfold answer
  rw [Act.run_bind_ok (run_fresh spot gathering), Act.run_lift_except]

variable (uses : completer.UsesCache)
include uses

theorem UsesCache.place_of_missing {later : σ × Workspace}
    (missing : (completer.consult request).run.run state = (.ok .missing, later)) :
    ∃ line column, place request = .ok (line, column) := by
  have consulted := uses.consulted request state
  generalize (completer.consult request).run.run state = ended at consulted missing
  cases consulted with
  | cleared clears turnedAway empty => cases missing
  | turnedAway stays turnedAway answered same => cases answered _ (congrArg Prod.fst missing)
  | admitted stays admits same =>
      cases spot : place request with
      | error fault =>
          rw [spot] at missing
          cases missing
      | ok found => exact ⟨found.1, found.2, rfl⟩

theorem UsesCache.cacheOf_consult_of_stays (stays : ¬ completer.Clears request state) :
    completer.cacheOf ((completer.consult request).run.run state).2 = completer.cacheOf state := by
  have consulted := uses.consulted request state
  generalize (completer.consult request).run.run state = ended at consulted ⊢
  cases consulted with
  | cleared clears turnedAway empty => exact absurd clears stays
  | turnedAway stays turnedAway answered same => exact same
  | admitted stays admits same => exact same

theorem UsesCache.cacheOf_after_of_clears (clears : completer.Clears request state) :
    completer.cacheOf (completer.after request state) = {} := by
  have consulted := uses.consulted request state
  rcases ended : (completer.consult request).run.run state with ⟨verdict, later⟩
  rw [ended] at consulted
  cases consulted with
  | cleared clears turnedAway empty =>
      unfold after
      rw [run_compute_of_verdict uses.computes ended]
      exact empty
  | turnedAway stays turnedAway answered same => exact absurd clears stays
  | admitted stays admits same => exact absurd clears stays

theorem UsesCache.cacheOf_after_of_gathers {found : Value} (gathers : completer.Gathers request state found) :
    ∃ line column, place request = .ok (line, column) ∧
      completer.cacheOf (completer.after request state) = ⟨line, column, found⟩ := by
  obtain ⟨later, missing, gathered⟩ := gathers
  obtain ⟨line, column, spot⟩ := uses.place_of_missing missing
  rcases gathering : (completer.gather request).run.run later with ⟨result, last⟩
  rw [gathering] at gathered
  cases gathered
  refine ⟨line, column, spot, ?_⟩
  unfold after
  rw [run_compute_of_gathered uses.computes missing spot gathering]
  exact uses.cacheOf_changeCore (fun core => { core with cache := ⟨line, column, found⟩ }) last

theorem UsesCache.cacheOf_after_of_not_replaces (stays : ¬ completer.Replaces request state) :
    completer.cacheOf (completer.after request state) = completer.cacheOf state := by
  have same := uses.cacheOf_consult_of_stays fun clears => stays (Or.inl clears)
  unfold after
  rcases ended : (completer.consult request).run.run state with ⟨fault | verdict, later⟩ <;> rw [ended] at same
  · rw [run_compute_of_fault uses.computes ended]
    exact same
  · rw [run_compute_of_verdict uses.computes ended]
    cases verdict with
    | declined => exact same
    | kept completions => exact same
    | missing =>
        have left := uses.gather request later
        rcases gathering : (completer.gather request).run.run later with ⟨fault | found, last⟩
        · have failed : (candidates.fresh completer request).run.run later = (.error fault, last) :=
            Act.run_bind_error gathering
          rw [gathering] at left
          unfold answer
          rw [Act.run_bind_error failed]
          exact left.trans same
        · exact absurd (Or.inr ⟨found, later, ended, by rw [gathering]⟩) stays

end After

section Runs

/-- The state that requests leave behind, one after another. -/
def afterAll (completer : Completer σ) (start : σ × Workspace) (requests : List Value) : σ × Workspace :=
  requests.foldl (fun state request => completer.after request state) start

theorem afterAll_concat (start : σ × Workspace) (requests : List Value) (last : Value) :
    completer.afterAll start (requests ++ [last]) = completer.after last (completer.afterAll start requests) := by
  simp [afterAll]

/-- These completions were gathered for this one of the requests, and no request has replaced them since. -/
def KeptFrom (completer : Completer σ) (start : σ × Workspace) (requests : List Value) (source completions : Value) :
    Prop :=
  Since (fun state request => completer.after request state)
    (fun request state => request = source ∧ completer.Gathers request state completions) completer.Replaces requests start

variable {start : σ × Workspace} {requests : List Value} {last source completions : Value}

theorem keptFrom_concat_iff :
    completer.KeptFrom start (requests ++ [last]) source completions ↔
      (last = source ∧ completer.Gathers last (completer.afterAll start requests) completions) ∨
        (completer.KeptFrom start requests source completions ∧
          ¬ completer.Replaces last (completer.afterAll start requests)) :=
  since_concat_iff requests last start

variable (uses : completer.UsesCache)
include uses

theorem UsesCache.cacheOf_of_keptFrom (kept : completer.KeptFrom start requests source completions) :
    ∃ line column, place source = .ok (line, column) ∧
      completer.cacheOf (completer.afterAll start requests) = ⟨line, column, completions⟩ := by
  induction requests using List.reverseRecOn with
  | nil => exact absurd kept (not_since_nil start)
  | append_singleton requests last ih =>
      rw [afterAll_concat]
      obtain ⟨rfl, gathers⟩ | ⟨before, stays⟩ := keptFrom_concat_iff.mp kept
      · exact uses.cacheOf_after_of_gathers gathers
      · rw [uses.cacheOf_after_of_not_replaces stays]
        exact ih before

theorem UsesCache.empty_or_keptFrom (requests : List Value) (fresh : completer.cacheOf start = {}) :
    completer.cacheOf (completer.afterAll start requests) = {} ∨
      ∃ source completions, completer.KeptFrom start requests source completions := by
  induction requests using List.reverseRecOn with
  | nil => exact Or.inl fresh
  | append_singleton requests last ih =>
      rw [afterAll_concat]
      by_cases replaces : completer.Replaces last (completer.afterAll start requests)
      · obtain clears | ⟨found, gathers⟩ := replaces
        · exact Or.inl (uses.cacheOf_after_of_clears clears)
        · exact Or.inr ⟨last, found, keptFrom_concat_iff.mpr (Or.inl ⟨rfl, gathers⟩)⟩
      · rw [uses.cacheOf_after_of_not_replaces replaces]
        obtain empty | ⟨source, completions, kept⟩ := ih
        · exact Or.inl empty
        · exact Or.inr ⟨source, completions, keptFrom_concat_iff.mpr (Or.inr ⟨kept, replaces⟩)⟩

/-- A request is served from what is kept exactly if it is admitted, and what is kept was gathered for a request with
the same line and column and has not been replaced since. Neither the file nor the text of the line has a part in it. -/
theorem UsesCache.kept_for_line_and_column (fresh : completer.cacheOf start = {}) (requests : List Value)
    (request completions : Value) :
    completer.compute request = completer.consult request >>= completer.answer request ∧
    (((completer.consult request).run.run (completer.afterAll start requests)).1 = .ok (.kept completions) ↔
      completer.Admits request (completer.afterAll start requests) ∧ completions.isPresent = true ∧
        ∃ source, completer.KeptFrom start requests source completions ∧ SamePlace request source) := by
  refine ⟨compute_eq uses.computes request, ?_⟩
  rw [uses.verdict_eq_kept_iff]
  refine and_congr_right fun _ => and_congr_right fun present => ?_
  constructor
  · rintro ⟨line, column, spot, served⟩
    obtain empty | ⟨source, found, kept⟩ := uses.empty_or_keptFrom requests fresh
    -- An empty cache is for a place too, but it has nothing to serve.
    · rw [empty] at served
      obtain ⟨_, rfl⟩ := Cache.get?_eq_some_iff.mp served
      cases present
    · obtain ⟨oldLine, oldColumn, oldSpot, cached⟩ := uses.cacheOf_of_keptFrom kept
      rw [cached] at served
      obtain ⟨isFor, rfl⟩ := Cache.get?_eq_some_iff.mp served
      exact ⟨source, kept, line, column, oldLine, oldColumn, spot, oldSpot, isFor⟩
  · rintro ⟨source, kept, line, column, oldLine, oldColumn, spot, oldSpot, isFor⟩
    obtain ⟨sourceLine, sourceColumn, sourceSpot, cached⟩ := uses.cacheOf_of_keptFrom kept
    rw [oldSpot] at sourceSpot
    cases sourceSpot
    rw [cached]
    exact ⟨line, column, spot, Cache.get?_eq_some_iff.mpr ⟨isFor, rfl⟩⟩

end Runs

section Example

theorem usesCache_plain (supported subcommands : List String) : (Session.plain supported subcommands).UsesCache where
  computes := rfl
  core_putCore _ _ := rfl
  applies _ _ := rfl
  gather _ state := by rcases state with ⟨⟨core, _ | ⟨first, rest⟩⟩, workspace⟩ <;> rfl
  decides := nofun

/-- A session in which there are different members to be found, first and later. -/
def memberSession : Session.PlainState × Workspace :=
  (⟨{ settings := ⟨[], .int 2, [("cpp", ["."])]⟩ }, [.list [.text "alpha"], .list [.text "beta"]]⟩, {})

/-- Asks for the members of a name that stands before a dot in the first line of a file. -/
def memberRequest (path name query : String) : Value :=
  .record [("filepath", .text path), ("line_num", .int 0), ("start_column", .int 4),
    ("line_value", .text (name ++ "." ++ query)), ("query", .text query), ("filetypes", .list [.text "cpp"])]

theorem kept_for_line_and_column_of_members :
    (Session.plain [] []).cacheOf memberSession = {} ∧
    ∃ source, (Session.plain [] []).KeptFrom memberSession [memberRequest "/a.cpp" "foo" ""] source
      (.list [.text "alpha"]) ∧ SamePlace (memberRequest "/b.cpp" "bar" "") source := by
  have fresh : (Session.plain [] []).cacheOf memberSession = {} := rfl
  have served := (usesCache_plain [] []).kept_for_line_and_column fresh [memberRequest "/a.cpp" "foo" ""]
    (memberRequest "/b.cpp" "bar" "") (.list [.text "alpha"])
  exact ⟨fresh, (served.2.mp rfl).2.2⟩

/-- The members found in one file are served in another one, where others would have been found. -/
theorem members_of_another_file :
    let later := (Session.plain [] []).after (memberRequest "/a.cpp" "foo" "") memberSession
    ((Session.plain [] []).compute (memberRequest "/a.cpp" "foo" "")).run.run memberSession =
        (.ok (.list [.text "alpha"]), later) ∧
      (((Session.plain [] []).consult (memberRequest "/b.cpp" "bar" "")).run.run later).1 =
        .ok (.kept (.list [.text "alpha"])) ∧
      (((Session.plain [] []).compute (memberRequest "/b.cpp" "bar" "")).run.run later).1 =
        .ok (.list [.text "alpha"]) ∧
      (((Session.plain [] []).gather (memberRequest "/b.cpp" "bar" "")).run.run later).1 =
        .ok (.list [.text "beta"]) :=
  ⟨rfl, rfl, rfl, rfl⟩

end Example

end Typeahead.Completer

import Mathlib.Data.List.Forall2
import Typeahead.Workspace

namespace Typeahead

/-! How acts run: one after another, in a part of the state, and beside a state of their own. First, when results
that depend on one another are there. -/

section Results

variable {α β : Type}

theorem bind_eq_ok_iff {result : Except Fault α} {next : α → Except Fault β} {value : β} :
    (result >>= next) = .ok value ↔ ∃ found, result = .ok found ∧ next found = .ok value := by
  cases result with
  | error fault => simp [bind, Except.bind]
  | ok found => simp [bind, Except.bind]

theorem mapM_eq_ok_iff {read : α → Except Fault β} {items : List α} {found : List β} :
    items.mapM read = .ok found ↔ List.Forall₂ (fun item value => read item = .ok value) items found := by
  induction items generalizing found with
  | nil =>
      rw [List.mapM_nil, List.forall₂_nil_left_iff]
      exact ⟨fun done => by cases done; rfl, fun none => by rw [none]; rfl⟩
  | cons item items ih =>
      rw [List.mapM_cons, bind_eq_ok_iff]
      constructor
      · intro ⟨value, first, done⟩
        obtain ⟨values, rest, done⟩ := bind_eq_ok_iff.mp done
        cases done
        exact .cons first (ih.mp rest)
      · intro read
        cases read with
        | cons first rest => exact ⟨_, first, bind_eq_ok_iff.mpr ⟨_, ih.mpr rest, rfl⟩⟩

theorem exists_read_of_mapM_ok {read : α → Except Fault β} {items : List α} {found : List β}
    (done : items.mapM read = .ok found) {item : α} (member : item ∈ items) : ∃ value, read item = .ok value := by
  have each := mapM_eq_ok_iff.mp done
  clear done
  induction each with
  | nil => cases member
  | cons first _ ih =>
      cases member with
      | head => exact ⟨_, first⟩
      | tail _ later => exact ih later

theorem mem_iff_of_mapM_ok {read : α → Except Fault β} {items : List α} {found : List β}
    (done : items.mapM read = .ok found) {value : β} : value ∈ found ↔ ∃ item ∈ items, read item = .ok value := by
  have each := mapM_eq_ok_iff.mp done
  clear done
  induction each with
  | nil => simp
  | cons first _ ih =>
      rw [List.mem_cons, List.exists_mem_cons_iff, first]
      exact or_congr ⟨congrArg Except.ok ∘ Eq.symm, Eq.symm ∘ Except.ok.inj⟩ ih

theorem exists_mapM_ok {read : α → Except Fault β} {items : List α}
    (each : ∀ item ∈ items, ∃ value, read item = .ok value) : ∃ found, items.mapM read = .ok found := by
  induction items with
  | nil => exact ⟨[], rfl⟩
  | cons item items ih =>
      obtain ⟨⟨value, first⟩, each⟩ := List.forall_mem_cons.mp each
      obtain ⟨found, rest⟩ := ih each
      exact ⟨value :: found, mapM_eq_ok_iff.mpr (.cons first (mapM_eq_ok_iff.mp rest))⟩

theorem forM_eq_ok {act : α → Except Fault Unit} {items : List α} (each : ∀ item ∈ items, act item = .ok ()) :
    items.forM act = .ok () := by
  induction items with
  | nil => rfl
  | cons item items ih =>
      obtain ⟨first, later⟩ := List.forall_mem_cons.mp each
      exact bind_eq_ok_iff.mpr ⟨(), first, ih later⟩

end Results

namespace Act

variable {σ α β : Type} {act : Act σ α} {next : α → Act σ β} {state after : σ}

theorem run_bind_ok {value : α} (done : act.run.run state = (.ok value, after)) :
    (act >>= next).run.run state = (next value).run.run after := by
  simp only [ExceptT.run_bind, StateT.run_bind, done]
  rfl

theorem run_bind_error {fault : Fault} (failed : act.run.run state = (.error fault, after)) :
    (act >>= next).run.run state = (.error fault, after) := by
  simp only [ExceptT.run_bind, StateT.run_bind, failed]
  rfl

theorem run_tryCatch_ok {handle : Fault → Act σ α} {value : α} (done : act.run.run state = (.ok value, after)) :
    (tryCatch act handle).run.run state = (.ok value, after) := by
  simp only [ExceptT.run] at done
  simp only [tryCatch, tryCatchThe, MonadExceptOf.tryCatch, ExceptT.tryCatch, ExceptT.run, ExceptT.mk,
    StateT.run_bind, done]
  rfl

/-- What changed before a failure is there when it is handled. -/
theorem run_tryCatch_error {handle : Fault → Act σ α} {fault : Fault}
    (failed : act.run.run state = (.error fault, after)) :
    (tryCatch act handle).run.run state = (handle fault).run.run after := by
  simp only [ExceptT.run] at failed
  simp only [tryCatch, tryCatchThe, MonadExceptOf.tryCatch, ExceptT.tryCatch, ExceptT.run, ExceptT.mk,
    StateT.run_bind, failed]
  rfl

/-- What succeeds has succeeded in each of its parts. -/
theorem exists_of_run_bind_ok {last : β} (done : (act >>= next).run.run state = (.ok last, after)) :
    ∃ value middle, act.run.run state = (.ok value, middle) ∧ (next value).run.run middle = (.ok last, after) := by
  rcases started : act.run.run state with ⟨result, middle⟩
  cases result with
  | error fault =>
      rw [run_bind_error started] at done
      cases done
  | ok value =>
      rw [run_bind_ok started] at done
      exact ⟨value, middle, rfl, done⟩

theorem run_lift (inner : Act Workspace α) (rest : σ) (workspace : Workspace) :
    (liftM inner : Act (σ × Workspace) α).run.run (rest, workspace) =
      ((inner.run.run workspace).1, (rest, (inner.run.run workspace).2)) := rfl

theorem run_lift_ok {inner : Act Workspace α} {value : α} {workspace later : Workspace}
    (done : inner.run.run workspace = (.ok value, later)) (rest : σ) :
    (liftM inner : Act (σ × Workspace) α).run.run (rest, workspace) = (.ok value, (rest, later)) := by
  rw [run_lift, done]

theorem run_lift_error {inner : Act Workspace α} {fault : Fault} {workspace later : Workspace}
    (failed : inner.run.run workspace = (.error fault, later)) (rest : σ) :
    (liftM inner : Act (σ × Workspace) α).run.run (rest, workspace) = (.error fault, (rest, later)) := by
  rw [run_lift, failed]

theorem exists_of_run_lift_ok {inner : Act Workspace α} {value : α} {workspace : Workspace} {rest : σ}
    {ended : σ × Workspace} (done : (liftM inner : Act (σ × Workspace) α).run.run (rest, workspace) = (.ok value, ended)) :
    ∃ later, inner.run.run workspace = (.ok value, later) ∧ ended = (rest, later) := by
  rw [run_lift] at done
  obtain ⟨succeeded, same⟩ := Prod.mk.inj done
  exact ⟨_, Prod.ext succeeded rfl, same.symm⟩

theorem lift_bind (inner : Act Workspace α) (next : α → Act Workspace β) :
    (liftM (inner >>= next) : Act (σ × Workspace) β) = liftM inner >>= fun value => liftM (next value) := by
  funext state
  obtain ⟨rest, workspace⟩ := state
  change (liftM (inner >>= next) : Act (σ × Workspace) β).run.run (rest, workspace) =
    (liftM inner >>= fun value => liftM (next value) : Act (σ × Workspace) β).run.run (rest, workspace)
  rcases running : inner.run.run workspace with ⟨result, after⟩
  cases result with
  | error fault => rw [run_lift, run_bind_error running, run_bind_error (run_lift_error running rest)]
  | ok value => rw [run_lift, run_bind_ok running, run_bind_ok (run_lift_ok running rest), run_lift]

/-- Doing something for each item beside a state is doing it for all of them there. -/
theorem forIn_lift (each : α → Act Workspace Unit) (items : List α) :
    (forIn items PUnit.unit fun item _ => do
      liftM (each item)
      pure (ForInStep.yield PUnit.unit) : Act (σ × Workspace) PUnit) = liftM (items.forM each) := by
  induction items with
  | nil => rfl
  | cons item items ih =>
      have first : (item :: items).forM each = each item >>= fun _ => items.forM each := rfl
      rw [List.forIn_cons, first, lift_bind, ← ih, bind_assoc]
      rfl

theorem forM_flatMap {ι : Type} (each : α → Act σ Unit) (groups : List (ι × List α)) :
    (groups.forM fun group => group.2.forM each) = (groups.flatMap (·.2)).forM each := by
  induction groups with
  | nil => rfl
  | cons group groups ih =>
      have first : (group :: groups).forM (fun group => group.2.forM each) =
        group.2.forM each >>= fun _ => groups.forM fun group => group.2.forM each := rfl
      rw [first, ih, List.flatMap_cons]
      exact List.forM_append.symm

theorem forIn_forIn_lift {ι : Type} (each : α → Act Workspace Unit) (groups : List (ι × List α)) :
    (forIn groups PUnit.unit fun group _ => do
      forIn group.2 PUnit.unit fun item _ => do
        liftM (each item)
        pure (ForInStep.yield PUnit.unit)
      pure (ForInStep.yield PUnit.unit) : Act (σ × Workspace) PUnit) = liftM ((groups.flatMap (·.2)).forM each) := by
  simp only [forIn_lift, forM_flatMap]

/-- What holds of the items that have been passed before a loop, and is carried over each further item, holds of all of
them behind the loop. -/
theorem holds_of_run_forIn_ok (holds : List α → β → σ → Prop) {body : α → β → Act σ (ForInStep β)}
    {items past : List α} {start last : β}
    (each : ∀ past item value state step after, item ∈ items → holds past value state →
      (body item value).run.run state = (.ok step, after) →
      ∃ next, step = .yield next ∧ holds (past ++ [item]) next after)
    (first : holds past start state) (ran : (forIn items start body).run.run state = (.ok last, after)) :
    holds (past ++ items) last after := by
  induction items generalizing past start state with
  | nil =>
      cases ran
      simpa using first
  | cons item items ih =>
      rw [List.forIn_cons] at ran
      obtain ⟨step, middle, one, rest⟩ := exists_of_run_bind_ok ran
      obtain ⟨next, rfl, held⟩ := each past item start state step middle List.mem_cons_self first one
      have later := ih (fun past item value state step after member => each past item value state step after
        (List.mem_cons_of_mem _ member)) held rest
      rwa [List.append_assoc] at later

/-- What succeeds on a part of the state has succeeded there. -/
theorem exists_of_run_on_ok {τ : Type} {part : σ → τ} {put : τ → σ → σ} {inner : Act τ α} {value : α}
    (done : (Act.on part put inner).run.run state = (.ok value, after)) :
    ∃ later, inner.run.run (part state) = (.ok value, later) ∧ after = put later state := by
  obtain ⟨succeeded, same⟩ := Prod.mk.inj done
  exact ⟨_, Prod.ext succeeded rfl, same.symm⟩

theorem run_get (state : σ) : (get : Act σ σ).run.run state = (.ok state, state) := rfl

/-- What can only fail leaves the state as it is. -/
theorem run_lift_except (result : Except Fault α) (state : σ) :
    (liftM result : Act σ α).run.run state = (result, state) := rfl

theorem run_bind_congr {other : Act σ α} (same : act.run.run state = other.run.run state) (next : α → Act σ β) :
    (act >>= next).run.run state = (other >>= next).run.run state := by
  simp only [ExceptT.run_bind, StateT.run_bind, same]

theorem run_bind_pure (act : Act σ α) (change : α → β) (state : σ) :
    (act >>= fun value => pure (change value)).run.run state =
      ((act.run.run state).1.map change, (act.run.run state).2) := by
  simp only [ExceptT.run_bind, StateT.run_bind]
  cases act.run.run state with
  | mk result after => cases result <;> rfl

/-- Doing something for its effect alone. -/
theorem run_effect (act : Act σ α) (state : σ) :
    (do let _ ← act).run.run state = ((act.run.run state).1.map fun _ => (), (act.run.run state).2) :=
  run_bind_pure act (fun _ => ()) state

theorem eq_ok_of_toOption {result : Except Fault α} {value : α} (found : result.toOption = some value) :
    result = .ok value := by
  cases result with
  | error fault => cases found
  | ok other =>
      cases found
      rfl

section Keeps

variable {relation : σ → σ → Prop}

/-- Every state is taken to one that is related to it, whether or not the act fails. -/
def Keeps (relation : σ → σ → Prop) (act : Act σ α) : Prop := ∀ state, relation state (act.run.run state).2

/-- A relation that doing nothing keeps, and so does doing one thing after another if each of them keeps it. -/
class Chains (relation : σ → σ → Prop) : Prop where
  refl : ∀ state, relation state state
  trans : ∀ {first second third}, relation first second → relation second third → relation first third

/-- A part of the state stays as it is. -/
instance chains_same {τ : Type} (part : σ → τ) : Chains fun before after => part after = part before where
  refl _ := rfl
  trans first second := second.trans first

theorem Keeps.of_run {result : Except Fault α} (kept : act.Keeps relation) (ran : act.run.run state = (result, after)) :
    relation state after := by
  have related := kept state
  rwa [ran] at related

/-- Something that is done on a part of the state. -/
theorem Keeps.on {τ : Type} {part : σ → τ} {put : τ → σ → σ} {inner : τ → τ → Prop} {act : Act τ α}
    (kept : act.Keeps inner) (carries : ∀ state later, inner (part state) later → relation state (put later state)) :
    (Act.on part put act).Keeps relation :=
  fun state => carries state _ (kept (part state))

theorem keeps_modify {change : σ → σ} (each : ∀ state, relation state (change state)) :
    (modify change : Act σ Unit).Keeps relation :=
  each

variable [Chains relation]

theorem Keeps.bind (first : act.Keeps relation) (rest : ∀ value, (next value).Keeps relation) :
    (act >>= next).Keeps relation := by
  intro state
  rcases running : act.run.run state with ⟨result, after⟩
  have before := first.of_run running
  cases result with
  | error fault =>
      rw [run_bind_error running]
      exact before
  | ok value =>
      rw [run_bind_ok running]
      exact Chains.trans before (rest value after)

theorem keeps_pure (value : α) : (pure value : Act σ α).Keeps relation := Chains.refl

theorem keeps_throw (fault : Fault) : (throw fault : Act σ α).Keeps relation := Chains.refl

theorem keeps_get : (get : Act σ σ).Keeps relation := Chains.refl

theorem keeps_except (result : Except Fault α) : (liftM result : Act σ α).Keeps relation := Chains.refl

theorem keeps_except_bind {result : Except Fault α} (rest : ∀ value, (next value).Keeps relation) :
    (liftM result >>= next).Keeps relation :=
  (keeps_except result).bind rest

/-- What comes after a result need only keep the relation for the value that is there. -/
theorem keeps_except_bind_of {result : Except Fault α} (rest : ∀ value, result = .ok value → (next value).Keeps relation) :
    (liftM result >>= next).Keeps relation := by
  cases result with
  | error fault =>
      intro state
      rw [run_bind_error (run_lift_except (.error fault) state)]
      exact Chains.refl state
  | ok value =>
      intro state
      rw [run_bind_ok (run_lift_except (.ok value) state)]
      exact rest value rfl state

/-- One of two things is done before the rest. -/
theorem keeps_choice_bind {condition : Prop} [Decidable condition] {first second : Act σ α} (yes : first.Keeps relation)
    (no : second.Keeps relation) (rest : ∀ value, (next value).Keeps relation) :
    (if condition then first >>= next else second >>= next).Keeps relation := by
  split
  · exact yes.bind rest
  · exact no.bind rest

theorem Keeps.tryCatch {handle : Fault → Act σ α} (first : act.Keeps relation)
    (handled : ∀ fault, (handle fault).Keeps relation) : (tryCatch act handle).Keeps relation := by
  intro state
  rcases running : act.run.run state with ⟨result, after⟩
  have before := first.of_run running
  cases result with
  | error fault =>
      rw [run_tryCatch_error running]
      exact Chains.trans before (handled fault after)
  | ok value =>
      rw [run_tryCatch_ok running]
      exact before

theorem keeps_foldlM {step : β → α → Act σ β} (each : ∀ value item, (step value item).Keeps relation) (items : List α)
    (start : β) : (items.foldlM step start).Keeps relation := by
  induction items generalizing start with
  | nil => exact keeps_pure start
  | cons item items ih =>
      rw [List.foldlM_cons]
      exact (each start item).bind ih

theorem keeps_forM {body : α → Act σ Unit} (each : ∀ item, (body item).Keeps relation) (items : List α) :
    (items.forM body).Keeps relation := by
  induction items with
  | nil => exact keeps_pure ()
  | cons item items ih => exact (each item).bind fun _ => ih

theorem keeps_forIn {body : α → β → Act σ (ForInStep β)} (each : ∀ item value, (body item value).Keeps relation)
    (items : List α) (start : β) : (forIn items start body).Keeps relation := by
  induction items generalizing start with
  | nil => exact keeps_pure start
  | cons item items ih =>
      rw [List.forIn_cons]
      refine (each item start).bind fun step => ?_
      cases step with
      | done value => exact keeps_pure value
      | yield value => exact ih value

end Keeps

section Erases

variable {act : Act (σ × Workspace) α} {plain : Act Workspace α}

/-- Something that is done beside a state of its own has the results and the effect on the workspace of something
that has no such state. -/
def Erases (act : Act (σ × Workspace) α) (plain : Act Workspace α) : Prop :=
  ∀ own workspace, ((act.run.run (own, workspace)).1, (act.run.run (own, workspace)).2.2) = plain.run.run workspace

theorem erases_lift (plain : Act Workspace α) : Erases (liftM plain : Act (σ × Workspace) α) plain := fun _ _ => rfl

theorem erases_pure (value : α) : Erases (pure value : Act (σ × Workspace) α) (pure value) := fun _ _ => rfl

theorem erases_bind {later : α → Act (σ × Workspace) β} {plainLater : α → Act Workspace β} (first : Erases act plain)
    (rest : ∀ value, Erases (later value) (plainLater value)) : Erases (act >>= later) (plain >>= plainLater) := by
  intro own workspace
  have same := first own workspace
  rcases running : act.run.run (own, workspace) with ⟨result, ownAfter, after⟩
  rw [running] at same
  cases result with
  | error fault => rw [run_bind_error running, run_bind_error same.symm]
  | ok value =>
      rw [run_bind_ok running, run_bind_ok same.symm]
      exact rest value ownAfter after

end Erases

end Act

end Typeahead

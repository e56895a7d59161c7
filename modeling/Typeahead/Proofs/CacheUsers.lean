import Typeahead.Completer.Omni
import Typeahead.Proofs.KeptCompletions

namespace Typeahead.Completer

/-! The completers that answer out of what they keep. Each of them reaches its own part of the state, the workspace
and what it is asked, but never the kept completions. -/

open Act

variable {σ α : Type} {completer : Completer σ}

section Leaves

theorem leaves_lift (act : Act Workspace α) : completer.Leaves (liftM act) := fun _ => rfl

theorem leaves_appliesByTrigger (core : σ → Core) (supported : List String) (request : Value) :
    completer.Leaves (appliesByTrigger core supported request) := fun _ => rfl

end Leaves

namespace SemanticState

theorem leaves_withFlags (act : Flags.Cached α) : semantic.Leaves (withFlags act) := fun _ => rfl

theorem leaves_withEngine (act : Frontend.Doing α) : semantic.Leaves (withEngine act) := fun _ => rfl

theorem leaves_prepared : semantic.Leaves prepared := fun _ => rfl

theorem leaves_isUpdating (path : String) : semantic.Leaves (isUpdating path) := by
  unfold isUpdating
  refine Keeps.bind leaves_prepared fun engine => ?_
  cases engine with
  | none => exact leaves_withEngine _
  | some engine => exact Keeps.bind (leaves_lift _) fun _ => keeps_pure _

theorem leaves_completions (path : String) (line column : Value) (files : List OpenFile) (flags : List String) :
    semantic.Leaves (completions path line column files flags) := by
  unfold completions
  refine Keeps.bind leaves_prepared fun engine => ?_
  cases engine with
  | none => exact keeps_except_bind fun _ => keeps_except_bind fun _ => leaves_withEngine _
  | some engine => exact Keeps.bind (leaves_lift _) fun _ => keeps_pure _

/-- The flags for a request are given with it, or they are looked up among the kept flags. -/
theorem keeps_flagsFor {relation : SemanticState × Workspace → SemanticState × Workspace → Prop} [Chains relation]
    (kept : ∀ act : Flags.Cached (Option (List String)), (withFlags act).Keeps relation) (request : Value) :
    (flagsFor request).Keeps relation := by
  unfold flagsFor
  refine keeps_except_bind fun path => keeps_except_bind fun given => ?_
  cases given with
  | true =>
      refine keeps_except_bind fun _ => keeps_except_bind fun _ => keeps_except_bind fun _ => ?_
      exact keeps_get.bind fun _ => keeps_except_bind fun _ => keeps_pure _
  | false =>
      cases request with
      | record fields => exact (keeps_pure fields).bind fun _ => kept _
      | _ => exact keeps_throw _

theorem leaves_flagsFor (request : Value) : semantic.Leaves (flagsFor request) :=
  keeps_flagsFor leaves_withFlags request

theorem leaves_gather (request : Value) : semantic.Leaves (gather request) := by
  unfold gather
  refine keeps_except_bind fun path => ?_
  split
  · exact keeps_pure _
  refine Keeps.bind (leaves_isUpdating _) fun updating => ?_
  split
  · exact keeps_throw _
  refine Keeps.bind (leaves_flagsFor _) fun flags => ?_
  split
  · split
    · exact keeps_throw _
    refine keeps_except_bind fun files => keeps_except_bind fun line => keeps_except_bind fun _ => ?_
    refine keeps_except_bind fun column => keeps_except_bind fun _ => ?_
    refine Keeps.bind (leaves_completions _ _ _ _ _) fun found => ?_
    split
    · exact keeps_throw _
    · exact keeps_pure _
  · exact keeps_throw _

end SemanticState

theorem usesCache_semantic : semantic.UsesCache where
  computes := rfl
  core_putCore _ _ := rfl
  applies := leaves_appliesByTrigger _ _
  gather := SemanticState.leaves_gather
  decides := nofun

theorem AnalyzedState.leaves_openSource (request : Value) : analyzed.Leaves (openSource request) := by
  unfold openSource
  refine keeps_except_bind fun path => ?_
  cases path with
  | text path =>
      refine keeps_except_bind fun _ => keeps_except_bind fun _ => keeps_except_bind fun contents => ?_
      refine keeps_except_bind fun _ => keeps_except_bind fun line => keeps_except_bind fun column => ?_
      exact Keeps.bind (leaves_lift _) fun _ => keeps_get.bind fun _ => keeps_pure _
  | _ => exact keeps_throw _

theorem usesCache_analyzed : analyzed.UsesCache where
  computes := rfl
  core_putCore _ _ := rfl
  applies := leaves_appliesByTrigger _ _
  gather request := Keeps.bind (AnalyzedState.leaves_openSource request) fun _ => keeps_except_bind fun _ => keeps_pure _
  decides := nofun

namespace FileNameState

theorem leaves_includePaths (path : String) (line : Path.Include) : fileName.Leaves (includePaths path line) :=
  Keeps.bind (fun _ => rfl) fun _ => keeps_get.bind fun _ => keeps_pure _

theorem leaves_gather (request : Value) : fileName.Leaves (gather request) := by
  unfold gather
  refine keeps_except_bind fun line => keeps_except_bind fun column => keeps_except_bind fun source => ?_
  refine keeps_except_bind fun line => keeps_except_bind fun inFamily => ?_
  cases if inFamily then Path.Include.ofLine? line else none with
  | some opened => exact Keeps.bind (leaves_includePaths _ opened) fun _ => keeps_get.bind fun _ => keeps_except _
  | none => exact keeps_get.bind fun _ => keeps_except_bind fun _ => keeps_except _

end FileNameState

theorem usesCache_fileName : fileName.UsesCache where
  computes := rfl
  core_putCore _ _ := rfl
  applies _ _ := rfl
  gather := FileNameState.leaves_gather
  decides := nofun

namespace SolutionState

theorem leaves_ask (question : String) (parameters : List (String × String)) :
    solution.Leaves (ask question parameters) := by
  unfold ask
  refine Keeps.bind (fun _ => rfl) fun _ => Keeps.bind (leaves_lift _) fun _ => keeps_get.bind fun state => ?_
  cases state.2.solution.lookup question with
  | some answer => exact keeps_pure answer
  | none => exact keeps_throw _

theorem leaves_gather (request : Value) : solution.Leaves (gather request) := by
  unfold gather
  refine keeps_except_bind fun _ => Keeps.bind (leaves_ask _ _) fun found => ?_
  cases found with
  | null => exact Keeps.bind (keeps_pure []) fun _ => keeps_except_bind fun _ => keeps_pure _
  | _ => exact keeps_except_bind fun _ => keeps_except_bind fun _ => keeps_pure _

end SolutionState

theorem usesCache_solution : solution.UsesCache where
  computes := rfl
  core_putCore _ _ := rfl
  applies := leaves_appliesByTrigger _ _
  gather := SolutionState.leaves_gather
  decides := nofun

namespace OmniState

variable {state : OmniState} {workspace : Workspace} {request : Value}

theorem leaves_applies (request : Value) : keeping.Leaves (applies request) := by
  refine keeps_get.bind fun state => ?_
  split
  · exact keeps_pure _
  · exact leaves_appliesByTrigger _ _ _

theorem leaves_gather (request : Value) : keeping.Leaves (gather request) := by
  refine keeps_get.bind fun state => ?_
  dsimp only
  split
  · exact keeps_pure _
  · refine Keeps.tryCatch (leaves_lift _) fun fault => ?_
    split
    · exact (keeps_throw _).bind fun _ => Keeps.bind (leaves_lift _) fun _ => keeps_pure _
    · exact Keeps.bind (leaves_lift _) fun _ => keeps_pure _

/-- A function is known, and its items are to be kept. -/
structure KeepsItems (state : OmniState) : Prop where
  hasFunction : state.function.isPresent = true
  hasOption : ∃ value, state.core.settings.option "cache_omnifunc" = .ok value ∧ value.isPresent = true

theorem KeepsItems.run_usesCache (keeps : KeepsItems state) (workspace : Workspace) :
    usesCache.run.run (state, workspace) = (.ok true, (state, workspace)) := by
  obtain ⟨value, isOption, present⟩ := keeps.hasOption
  unfold usesCache
  rw [run_bind_ok (run_get _), run_bind_ok (by rw [run_lift_except, isOption]), present]
  rfl

theorem KeepsItems.run_shouldUse (keeps : KeepsItems state) (present : request.isPresent = true) :
    (deciding.shouldUse request).run.run (state, workspace) = (keeping.shouldUse request).run.run (state, workspace) := by
  change (shouldUse request).run.run (state, workspace) = _
  unfold shouldUse
  rw [run_bind_ok (run_get _)]
  simp only [keeps.hasFunction, present, Bool.not_true, Bool.false_eq_true, if_false, if_true, pure_bind]
  rw [run_bind_ok (keeps.run_usesCache workspace)]
  rfl

theorem KeepsItems.run_consult (keeps : KeepsItems state) (present : request.isPresent = true) :
    (deciding.consult request).run.run (state, workspace) = (keeping.consult request).run.run (state, workspace) := by
  cases forced : isForced request with
  | error fault =>
      unfold consult
      rw [forced]
      rfl
  | ok isForced =>
      cases isForced with
      | true =>
          rw [consult_eq_of_forced forced, consult_eq_of_forced forced]
          rfl
      | false =>
          rw [consult_eq_of_unforced forced, consult_eq_of_unforced forced]
          exact run_bind_congr (keeps.run_shouldUse present) _

/-- While its items are to be kept, the completer answers like one that keeps whatever it gathers. -/
theorem KeepsItems.run_compute (keeps : KeepsItems state) (present : request.isPresent = true) (workspace : Workspace) :
    (compute request).run.run (state, workspace) = (keeping.compute request).run.run (state, workspace) := by
  unfold OmniState.compute
  rw [run_bind_ok (keeps.run_usesCache workspace)]
  simp only [if_true]
  rw [compute_eq rfl, compute_eq rfl]
  exact run_bind_congr (keeps.run_consult present) _

end OmniState

/-- The completer of the editor's function, while its items are to be kept. -/
theorem usesCache_omni : OmniState.keeping.UsesCache where
  computes := rfl
  core_putCore _ _ := rfl
  applies := OmniState.leaves_applies
  gather := OmniState.leaves_gather
  decides := nofun

end Typeahead.Completer

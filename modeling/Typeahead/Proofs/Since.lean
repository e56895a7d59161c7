import Mathlib.Data.List.Induction

namespace Typeahead

/-! What is still so at the end of a run: one of its steps brought it about, and no step since has ended it. -/

variable {σ ι : Type} {advance : σ → ι → σ} {begins ends : ι → σ → Prop}

/-- A step of a run began something that no later step has ended. Each step is judged by the state that it meets. -/
def Since (advance : σ → ι → σ) (begins ends : ι → σ → Prop) (steps : List ι) (state : σ) : Prop :=
  ∃ earlier step later, steps = earlier ++ step :: later ∧ begins step (earlier.foldl advance state) ∧
    ∀ between other rest, later = between ++ other :: rest →
      ¬ ends other ((earlier ++ step :: between).foldl advance state)

theorem not_since_nil (state : σ) : ¬ Since advance begins ends [] state := by
  intro ⟨earlier, step, later, cut, _⟩
  simp at cut

theorem since_concat_iff (steps : List ι) (last : ι) (state : σ) :
    Since advance begins ends (steps ++ [last]) state ↔
      begins last (steps.foldl advance state) ∨
        (Since advance begins ends steps state ∧ ¬ ends last (steps.foldl advance state)) := by
  constructor
  · intro ⟨earlier, step, later, cut, began, lasts⟩
    cases later using List.reverseRecOn with
    | nil =>
        obtain ⟨rfl, same⟩ := List.append_inj' cut rfl
        cases same
        exact Or.inl began
    | append_singleton later other =>
        rw [← List.cons_append, ← List.append_assoc] at cut
        obtain ⟨rfl, same⟩ := List.append_inj' cut rfl
        cases same
        refine Or.inr ⟨⟨earlier, step, later, rfl, began, ?_⟩, lasts later last [] rfl⟩
        intro between other rest split
        exact lasts between other (rest ++ [last]) (by simp [split])
  · intro still
    obtain began | ⟨⟨earlier, step, later, rfl, began, lasts⟩, lastLasts⟩ := still
    · refine ⟨steps, last, [], rfl, began, ?_⟩
      intro between other rest split
      simp at split
    · refine ⟨earlier, step, later ++ [last], by simp, began, ?_⟩
      intro between other rest split
      cases rest using List.reverseRecOn with
      | nil =>
          obtain ⟨rfl, same⟩ := List.append_inj' split rfl
          cases same
          exact lastLasts
      | append_singleton rest final =>
          rw [← List.cons_append, ← List.append_assoc] at split
          obtain ⟨rfl, _⟩ := List.append_inj' split rfl
          exact lasts between other rest rfl

end Typeahead

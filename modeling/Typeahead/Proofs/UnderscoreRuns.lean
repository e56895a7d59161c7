import Mathlib.Data.List.Infix
import Mathlib.Data.List.SplitBy
import Mathlib.Data.List.TakeWhile
import Typeahead.Frontend.Completion

namespace Typeahead.Frontend

/-! Pairs of underscores are erased in one pass. What is left of a run of underscores depends on its length alone, and
what stands on both sides of a run keeps it apart from the others, so that no new pair comes together and a second
pass finds nothing to erase. -/

section Runs

/-- The text cut into its maximal runs of underscores and the single characters between them. -/
def underscoreRuns (text : List Char) : List (List Char) :=
  text.splitBy fun left right => left == '_' && right == '_'

/-- What is left of a run: one underscore of an odd number of them. -/
def leftOf (run : List Char) : List Char :=
  if '_' ∈ run then List.replicate (run.length % 2) '_' else run

variable {rest : List Char} {character : Char}

theorem underscoreRuns_cons (other : character ≠ '_') (rest : List Char) :
    underscoreRuns (character :: rest) = [character] :: underscoreRuns rest := by
  have border : ∀ last ∈ [character].getLast?, ∀ next ∈ rest.head?, (last == '_' && next == '_') = false := by
    simp [other]
  exact List.splitBy_append border

theorem underscoreRuns_append (ends : '_' ∉ rest.head?) (count : Nat) :
    underscoreRuns (List.replicate (count + 1) '_' ++ rest) =
      List.replicate (count + 1) '_' :: underscoreRuns rest := by
  have border : ∀ last ∈ (List.replicate (count + 1) '_').getLast?, ∀ next ∈ rest.head?,
      (last == '_' && next == '_') = false := by
    intro last _ next isNext
    have other : next ≠ '_' := fun same => ends (same ▸ isNext)
    simp [other]
  have chain : (List.replicate (count + 1) '_').IsChain fun left right => (left == '_' && right == '_') = true :=
    List.isChain_replicate_of_rel _ rfl
  rw [underscoreRuns, List.splitBy_append border, List.splitBy_of_isChain (by simp) chain]
  rfl

/-- A text is made of single characters and of runs of underscores, each of them as long as can be. -/
theorem underscore_induction {property : List Char → Prop} (empty : property [])
    (single : ∀ character rest, character ≠ '_' → property rest → property (character :: rest))
    (run : ∀ count rest, '_' ∉ rest.head? → property rest → property (List.replicate (count + 1) '_' ++ rest))
    (text : List Char) : property text := by
  match text with
  | [] => exact empty
  | character :: rest =>
      by_cases other : character = '_'
      · let underscores := rest.takeWhile (· == '_')
        have alike : underscores = List.replicate underscores.length '_' := by
          refine List.eq_replicate_of_mem fun letter member => ?_
          have taken := List.mem_takeWhile_imp member
          exact eq_of_beq taken
        have cut : character :: rest = List.replicate (underscores.length + 1) '_' ++ rest.dropWhile (· == '_') := by
          rw [List.replicate_succ, List.cons_append, ← alike, List.takeWhile_append_dropWhile, other]
        have ends : '_' ∉ (rest.dropWhile (· == '_')).head? := by
          intro isNext
          have stops := List.head?_dropWhile_not (· == '_') rest
          rw [Option.mem_def.mp isNext] at stops
          cases stops
        have shorter : (rest.dropWhile (· == '_')).length ≤ rest.length := (List.dropWhile_sublist _).length_le
        rw [cut]
        exact run _ _ ends (underscore_induction empty single run _)
      · exact single character rest other (underscore_induction empty single run rest)
termination_by text.length

end Runs

section Erased

variable {rest : List Char} {character : Char}

theorem erasePairs_cons (other : character ≠ '_') (rest : List Char) :
    erasePairs (character :: rest) = character :: erasePairs rest := by
  rw [erasePairs]
  intro _ same
  exact absurd same other

theorem erasePairs_append (ends : '_' ∉ rest.head?) (count : Nat) :
    erasePairs (List.replicate count '_' ++ rest) = List.replicate (count % 2) '_' ++ erasePairs rest := by
  induction count using Nat.twoStepInduction with
  | zero => rfl
  | one =>
      cases rest with
      | nil => rfl
      | cons next rest =>
          have other : next ≠ '_' := by simpa using ends
          change erasePairs ('_' :: next :: rest) = '_' :: erasePairs (next :: rest)
          rw [erasePairs]
          intro _ _ same
          exact other (List.cons.inj same).1
  | more count ih _ =>
      have shorter : (count + 2) % 2 = count % 2 := by omega
      rw [shorter, ← ih]
      rfl

theorem erasePairs_eq_flatMap (text : List Char) : erasePairs text = (underscoreRuns text).flatMap leftOf := by
  induction text using underscore_induction with
  | empty => rfl
  | single character rest other ih =>
      have kept : leftOf [character] = [character] := by simp [leftOf, other.symm]
      rw [erasePairs_cons other, underscoreRuns_cons other, List.flatMap_cons, kept, ih]
      rfl
  | run count rest ends ih =>
      have halved : leftOf (List.replicate (count + 1) '_') = List.replicate ((count + 1) % 2) '_' := by simp [leftOf]
      rw [erasePairs_append ends, underscoreRuns_append ends, List.flatMap_cons, halved, ih]

theorem head?_erasePairs (ends : '_' ∉ rest.head?) : (erasePairs rest).head? = rest.head? := by
  cases rest with
  | nil => rfl
  | cons next rest =>
      have other : next ≠ '_' := by simpa using ends
      rw [erasePairs_cons other]
      rfl

theorem not_isInfix_erasePairs (text : List Char) : ¬ ['_', '_'] <:+: erasePairs text := by
  fun_induction erasePairs text with
  | case1 => simp
  | case2 rest ih => exact ih
  | case3 character rest single ih =>
      rw [List.infix_cons_iff, List.cons_prefix_cons]
      rintro (⟨isFirst, second⟩ | later)
      · have ends : '_' ∉ rest.head? := by
          intro isNext
          obtain ⟨others, isRest⟩ := List.head?_eq_some_iff.mp isNext
          exact single others isFirst.symm isRest
        have next : (erasePairs rest).head? = some '_' := by
          obtain ⟨others, isErased⟩ := second
          rw [← isErased]
          rfl
        rw [head?_erasePairs ends] at next
        exact ends next
      · exact ih later

theorem erasePairs_eq_self {text : List Char} (noPair : ¬ ['_', '_'] <:+: text) : erasePairs text = text := by
  fun_induction erasePairs text with
  | case1 => rfl
  | case2 rest ih => exact absurd ⟨[], rest, rfl⟩ noPair
  | case3 character rest single ih =>
      have noLater : ¬ ['_', '_'] <:+: rest :=
        fun later => noPair (later.trans (List.suffix_cons character rest).isInfix)
      rw [ih noLater]

end Erased

/-- Of each maximal run of underscores one is left if their number is odd and none if it is even, and all other
characters stay. So no pair of underscores is left, and a second pass changes nothing. The text that a completion is
listed under is the signature after one pass. -/
theorem erasePairs_leaves_odd_ones :
    (∀ text, erasePairs text = (underscoreRuns text).flatMap leftOf ∧
      ¬ ['_', '_'] <:+: erasePairs text ∧ erasePairs (erasePairs text) = erasePairs text) ∧
    ∀ offer, (Completion.ofOffer offer).menu.toList =
      (underscoreRuns (Signature.ofChunks (offer.chunks.getD [])).shown.toList).flatMap leftOf := by
  constructor
  · intro text
    have noPair := not_isInfix_erasePairs text
    exact ⟨erasePairs_eq_flatMap text, noPair, erasePairs_eq_self noPair⟩
  · intro offer
    rw [← erasePairs_eq_flatMap]
    exact String.toList_ofList

/-- Three runs: an odd one, an even one and a single underscore. -/
example : (underscoreRuns "___pos__end_".toList).flatMap leftOf = "_posend_".toList := by decide

end Typeahead.Frontend

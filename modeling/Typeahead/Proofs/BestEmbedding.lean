import Mathlib.Algebra.GroupWithZero.Nat
import Mathlib.Order.Bounds.Basic
import Typeahead.Proofs.Selection

namespace Typeahead

/-! The best embedding of a query in a text. Several choices of places may embed a query; the walk through the letter
index takes the first place that will do for one letter after another and never goes back. That costs nothing: every
other choice has its letters at the same places or later ones. -/

open Letter

/-- Increasing places of a text, one for each letter of a query, whose letters are accepted for those of the query. -/
structure Embeds (caseSensitive : Bool) (query text : Bytes) (places : List Nat) : Prop where
  increasing : places.Pairwise (· < ·)
  accepted : List.Forall₂ (fun wanted place => ∃ found ∈ text[place]?, Accepts caseSensitive wanted found) query places

instance (caseSensitive : Bool) (query text : Bytes) (places : List Nat) :
    Decidable (Embeds caseSensitive query text places) :=
  decidable_of_iff (places.Pairwise (· < ·) ∧
      List.Forall₂ (fun wanted place => ∃ found ∈ text[place]?, Accepts caseSensitive wanted found) query places)
    ⟨fun both => ⟨both.1, both.2⟩, fun embeds => ⟨embeds.increasing, embeds.accepted⟩⟩

namespace Embeds

variable {caseSensitive : Bool} {query text : Bytes} {letter found : UInt8} {place : Nat} {places : List Nat}

theorem nil (caseSensitive : Bool) (text : Bytes) : Embeds caseSensitive [] text [] :=
  ⟨List.Pairwise.nil, List.Forall₂.nil⟩

theorem cons (embeds : Embeds caseSensitive query text places) (isFound : text[place]? = some found)
    (accepted : Accepts caseSensitive letter found) (later : ∀ other ∈ places, place < other) :
    Embeds caseSensitive (letter :: query) text (place :: places) where
  increasing := List.pairwise_cons.mpr ⟨later, embeds.increasing⟩
  accepted := List.Forall₂.cons ⟨found, isFound, accepted⟩ embeds.accepted

end Embeds

/-- The first item from a place on that will do is no later than any other that will do. -/
theorem exists_findIdx?_drop {α : Type} {items : List α} {item : α} {will : α → Prop} [DecidablePred will]
    {start place : Nat} (later : start ≤ place) (isItem : items[place]? = some item) (does : will item) :
    ∃ offset, ((items.drop start).findIdx? fun item => decide (will item)) = some offset ∧ start + offset ≤ place := by
  have isLater : (items.drop start)[place - start]? = some item := by
    rw [List.getElem?_drop, Nat.add_sub_cancel' later]
    exact isItem
  obtain ⟨within, isHere⟩ := List.getElem?_eq_some_iff.mp isLater
  cases located : (items.drop start).findIdx? fun item => decide (will item) with
  | none =>
      have refused := List.findIdx?_eq_none_iff.mp located item (isHere ▸ List.getElem_mem within)
      exact absurd does (of_decide_eq_false refused)
  | some offset =>
      obtain ⟨_, _, before⟩ := List.findIdx?_eq_some_iff_getElem.mp located
      refine ⟨offset, rfl, ?_⟩
      by_contra beyond
      have refused := before (place - start) (by omega)
      rw [isHere] at refused
      exact refused (decide_eq_true does)

namespace LetterIndex

variable {text query : Bytes} {caseSensitive : Bool} {start : Nat}

/-- A walk that succeeds has taken places that embed the query, and gives their sum. -/
theorem exists_embeds_of_walk {sum : Nat}
    (walked : (ofText text).walk caseSensitive (tableAt text start) query = some sum) :
    ∃ places, Embeds caseSensitive query text places ∧ (∀ place ∈ places, start ≤ place) ∧ places.sum = sum := by
  induction query generalizing start sum with
  | nil =>
      cases walked
      exact ⟨[], Embeds.nil caseSensitive text, by simp, rfl⟩
  | cons letter query ih =>
      rw [walk_ofText_cons] at walked
      obtain ⟨offset, located, rest⟩ := Option.bind_eq_some_iff.mp walked
      obtain ⟨restSum, restWalked, rfl⟩ := Option.map_eq_some_iff.mp rest
      obtain ⟨places, embeds, later, isSum⟩ := ih restWalked
      obtain ⟨within, accepted, _⟩ := List.findIdx?_eq_some_iff_getElem.mp located
      have isFound : text[start + offset]? = some (text.drop start)[offset] := by
        rw [← List.getElem?_drop, List.getElem?_eq_getElem within]
      refine ⟨(start + offset) :: places, embeds.cons isFound (of_decide_eq_true accepted) ?_, ?_, ?_⟩
      · intro place member
        have bound := later place member
        omega
      · intro place member
        rcases List.mem_cons.mp member with rfl | member
        · omega
        · have bound := later place member
          omega
      · rw [List.sum_cons, isSum]

/-- Where places embed a query, the walk succeeds, and its sum is no greater than theirs. -/
theorem walk_le_sum {places : List Nat} (embeds : Embeds caseSensitive query text places)
    (later : ∀ place ∈ places, start ≤ place) :
    ∃ sum, (ofText text).walk caseSensitive (tableAt text start) query = some sum ∧ sum ≤ places.sum := by
  induction query generalizing start places with
  | nil => exact ⟨0, rfl, Nat.zero_le _⟩
  | cons letter query ih =>
      obtain ⟨increasing, accepted⟩ := embeds
      cases accepted with
      | @cons _ place _ places first rest =>
          obtain ⟨found, isFound, accepts⟩ := first
          obtain ⟨behind, restIncreasing⟩ := List.pairwise_cons.mp increasing
          obtain ⟨offset, located, early⟩ := exists_findIdx?_drop (later place List.mem_cons_self) isFound accepts
          -- What is left of the other choice lies behind its own place, so behind the earlier one too.
          have restLater : ∀ other ∈ places, start + offset + 1 ≤ other := by
            intro other member
            have bound := behind other member
            omega
          obtain ⟨sum, walked, least⟩ := ih ⟨restIncreasing, rest⟩ restLater
          refine ⟨start + offset + sum, ?_, ?_⟩
          · rw [walk_ofText_cons, located, Option.bind_some, walked, Option.map_some]
          · rw [List.sum_cons]
            omega

/-- The sum of a walk through the whole text is the least that places which embed the query have. -/
theorem isLeast_of_walk {sum : Nat} (walked : (ofText text).walk caseSensitive (ofText text).whole query = some sum) :
    IsLeast {sum | ∃ places, Embeds caseSensitive query text places ∧ places.sum = sum} sum := by
  have fromStart := (walk_whole text caseSensitive query).symm.trans walked
  constructor
  · obtain ⟨places, embeds, _, isSum⟩ := exists_embeds_of_walk fromStart
    exact ⟨places, embeds, isSum⟩
  · rintro _ ⟨places, embeds, rfl⟩
    obtain ⟨other, otherWalked, least⟩ := walk_le_sum embeds fun place _ => Nat.zero_le place
    cases fromStart.symm.trans otherWalked
    exact least

theorem walk_isSome_iff_embeds :
    ((ofText text).walk caseSensitive (ofText text).whole query).isSome ↔
      ∃ places, Embeds caseSensitive query text places := by
  rw [Option.isSome_iff_exists]
  constructor
  · rintro ⟨sum, walked⟩
    obtain ⟨places, embeds, _⟩ := (isLeast_of_walk walked).1
    exact ⟨places, embeds⟩
  · rintro ⟨places, embeds⟩
    obtain ⟨sum, walked, _⟩ := walk_le_sum embeds fun place _ => Nat.zero_le place
    exact ⟨sum, (walk_whole text caseSensitive query).trans walked⟩

end LetterIndex

theorem Match.indexSum_of_ofQuery? {candidate : Candidate} {query : Bytes} {caseSensitive : Bool} {found : Match}
    (matched : ofQuery? candidate query caseSensitive = some found) :
    candidate.index.walk caseSensitive candidate.index.whole query = some found.indexSum := by
  obtain ⟨indexSum, walked, rfl⟩ := Option.map_eq_some_iff.mp matched
  rw [walked]
  split <;> rfl

/-- A candidate matches a query exactly if the letters of the query embed in the text at some increasing places, and
the sum of places that the match is ranked by is then the least that any such places have. -/
theorem Match.ofQuery?_finds_best (text query : Bytes) (caseSensitive : Bool)
    (ascii : ∀ letter ∈ text, isAscii letter) :
    ∃ candidate, Candidate.ofText text = .ok candidate ∧
      ((ofQuery? candidate query caseSensitive).isSome ↔ ∃ places, Embeds caseSensitive query text places) ∧
      ∀ found, ofQuery? candidate query caseSensitive = some found →
        IsLeast {sum | ∃ places, Embeds caseSensitive query text places ∧ places.sum = sum} found.indexSum := by
  obtain ⟨candidate, made⟩ := Candidate.ofText_exists ascii
  obtain ⟨_, _, _, _, index⟩ := Candidate.ofText_eq_ok_iff.mp made
  refine ⟨candidate, made, ?_, ?_⟩
  · rw [ofQuery?, Option.isSome_map, index]
    exact LetterIndex.walk_isSome_iff_embeds
  · intro found matched
    have walked := indexSum_of_ofQuery? matched
    rw [index] at walked
    exact LetterIndex.isLeast_of_walk walked

/-- A place of the wrong case is passed over, and places further on would do as well. -/
theorem Match.ofQuery?_finds_best_camel :
    let text := Bytes.ofString "fobOBaB"
    let query := Bytes.ofString "oB"
    (∀ letter ∈ text, isAscii letter) ∧
      ∃ candidate found, Candidate.ofText text = .ok candidate ∧ ofQuery? candidate query true = some found ∧
        found.indexSum = 5 ∧ IsLeast {sum | ∃ places, Embeds true query text places ∧ places.sum = sum} 5 := by
  intro text query
  have ascii : ∀ letter ∈ text, isAscii letter := by decide +kernel
  have embeds : Embeds true query text [3, 6] := by decide +kernel
  have least : (LetterIndex.ofText text).walk true (LetterIndex.ofText text).whole query = some 5 := by decide +kernel
  obtain ⟨candidate, made, isSome_iff, isLeast⟩ := ofQuery?_finds_best text query true ascii
  obtain ⟨found, matched⟩ := Option.isSome_iff_exists.mp (isSome_iff.mpr ⟨_, embeds⟩)
  have sum : found.indexSum = 5 := by
    have walked := indexSum_of_ofQuery? matched
    rw [(Candidate.ofText_eq_ok_iff.mp made).2.2.2.2, least] at walked
    exact (Option.some.inj walked).symm
  exact ⟨ascii, candidate, found, made, matched, sum, sum ▸ isLeast found matched⟩

end Typeahead

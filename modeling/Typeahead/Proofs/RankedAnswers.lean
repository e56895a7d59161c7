import Mathlib.Data.List.Permutation
import Typeahead.Proofs.ArrivalOrder
import Typeahead.Proofs.PlainTexts

namespace Typeahead

/-! Answers that are filtered and sorted. Of the items of an answer, a query chooses those whose texts it keeps, and
lists them so that none is better than the one right before it. -/

open Letter

theorem Match.before_asymm {length : Nat} {left right : Match} (nonempty : length ≠ 0) (ofLeft : OfLength length left)
    (ofRight : OfLength length right) (isBefore : left.before right) : right.before left = false := by
  by_cases undecided : Undecided left right
  · exact not_before_of_undecided nonempty ofRight ofLeft undecided.symm
  · have otherWay : ¬ Undecided right left := fun other => undecided other.symm
    rw [before_iff_key_lt nonempty ofLeft ofRight undecided] at isBefore
    rw [Bool.eq_false_iff, ne_eq, before_iff_key_lt nonempty ofRight ofLeft otherWay]
    exact isBefore.not_gt

namespace Ranking

section Choice

variable {α : Type} {query : Bytes} {text : α → Bytes} {items : List α}

/-- The query matches both texts, and the first one better. -/
def Beats (query left right : Bytes) : Prop :=
  ∃ ofLeft ofRight, matchOf? query left = some ofLeft ∧ matchOf? query right = some ofRight ∧ ofLeft.before ofRight

instance (query left right : Bytes) : Decidable (Beats query left right) :=
  decidable_of_iff (((matchOf? query left).bind fun ofLeft => (matchOf? query right).map ofLeft.before) = some true) (by
    simp only [Beats, Option.bind_eq_some_iff, Option.map_eq_some_iff]
    constructor
    · rintro ⟨ofLeft, isLeft, ofRight, isRight, better⟩
      exact ⟨ofLeft, ofRight, isLeft, isRight, better⟩
    · rintro ⟨ofLeft, ofRight, isLeft, isRight, better⟩
      exact ⟨ofLeft, isLeft, ofRight, isRight, better⟩)

/-- What a query chooses of some items: those whose texts it keeps, each as often as it is there, and in an order in
which none is better than the one right before it. -/
structure Chosen (query : Bytes) (text : α → Bytes) (items kept : List α) : Prop where
  exactly : kept.Perm (items.filter fun item => decide (Keeps query (text item)))
  sorted : kept.IsChain fun left right => ¬ Beats query (text right) (text left)

theorem beats_asymm (nonempty : query ≠ []) (ascii : ∀ letter ∈ query, isAscii letter) :
    ∀ left ∈ found query text items, ∀ right ∈ found query text items,
      beats left right = true → beats right left = false := by
  intro left leftMember right rightMember better
  have ofLeft := describes_of_matchOf? nonempty ascii (mem_found.mp leftMember).2
  have ofRight := describes_of_matchOf? nonempty ascii (mem_found.mp rightMember).2
  exact Match.before_asymm (by simpa using nonempty) ofLeft.ofLength ofRight.ofLength better

theorem rank_chooses (text : α → Bytes) (items : List α) (nonempty : query ≠ [])
    (ascii : ∀ letter ∈ query, isAscii letter) :
    ∃ kept, rank query text items = .ok kept ∧ Chosen query text items kept := by
  obtain ⟨kept, ranked, exactly⟩ := rank_perm_filter text items nonempty ascii
  refine ⟨kept, ranked, exactly, ?_⟩
  have isSorted := rank_eq text items nonempty ascii
  rw [ranked] at isSorted
  cases isSorted
  rw [List.isChain_map]
  refine (isChain_sort (beats_asymm nonempty ascii)).imp_of_mem_imp fun left right leftMember rightMember notBetter => ?_
  have leftMatched := (mem_found.mp ((sort_perm beats _).mem_iff.mp leftMember)).2
  have rightMatched := (mem_found.mp ((sort_perm beats _).mem_iff.mp rightMember)).2
  rintro ⟨ofRight, ofLeft, isRight, isLeft, better⟩
  rw [rightMatched] at isRight
  rw [leftMatched] at isLeft
  cases isRight
  cases isLeft
  exact absurd better (by simpa [beats] using notBetter)

/-- Two items that are both kept are chosen the better one first. -/
theorem Chosen.pair {worse better : α} {kept : List α} (chosen : Chosen query text [worse, better] kept)
    (keepsWorse : Keeps query (text worse)) (keepsBetter : Keeps query (text better))
    (beats : Beats query (text better) (text worse)) : kept = [better, worse] := by
  have exactly := chosen.exactly
  simp only [keepsWorse, keepsBetter, decide_true, List.filter_cons_of_pos, List.filter_nil] at exactly
  rcases List.perm_pair.mp exactly with rfl | rfl
  · exact absurd beats (List.isChain_pair.mp chosen.sorted)
  · rfl

end Choice

section Answers

variable {property query : String} {items : List Value} {first : Value}

/-- An item whose look says under which name the items have their texts: a record by its fields, and a text, which is
no record, by not containing a name of such a field. -/
def Shows (property : String) : Value → Prop
  | .record fields => property = "word" ∨ property = "insertion_text" ∧ fields.lookup "word" = none
  | .text content => ¬ "word".toList <:+: content.toList ∧ ¬ "insertion_text".toList <:+: content.toList
  | _ => False

/-- Items that all have a text, of which the first shows where. None of them is taken for the name of a record's list. -/
structure Filterable (property : String) (items : List Value) : Prop where
  haveTexts : HaveTexts property items
  shows : ∃ first ∈ items.head?, Shows property first
  unnamed : Value.text "words" ∉ items

theorem lookup_isSome_of_text? {fields : List (String × Value)} (hasText : (text? property (.record fields)).isSome) :
    (fields.lookup property).isSome := by
  by_contra absent
  rw [Bool.not_eq_true, Option.isSome_eq_false_iff, Option.isNone_iff_eq_none] at absent
  simp [text?, absent] at hasText

theorem textProperty_of_shows (isShown : Shows property first) (hasText : (text? property first).isSome) :
    textProperty first = .ok property := by
  cases first with
  | text content =>
      have plain : property = "" := by
        by_contra named
        simp [text?, named] at hasText
      have noField := (fieldFor_eq_empty_iff content).mpr (not_or.mpr isShown)
      rw [textProperty_text, noField, plain]
  | record fields =>
      have there := lookup_isSome_of_text? hasText
      rcases isShown with rfl | ⟨rfl, absent⟩
      · simp [textProperty, Value.holds, there, bind, Except.bind, pure, Except.pure]
      · simp [textProperty, Value.holds, there, absent, bind, Except.bind, pure, Except.pure]
  | _ => exact isShown.elim

theorem answerItems_list (unnamed : Value.text "words" ∉ items) :
    answerItems (.list items) = .ok (.list items) := by
  have notHeld : items.any (·.same (.text "words")) = false := by
    rw [List.any_eq_false]
    intro item listed isName
    cases item with
    | text content =>
        rw [Value.same, beq_iff_eq] at isName
        exact unnamed (isName ▸ listed)
    | _ => simp [Value.same, Value.number?] at isName
  simp [answerItems, Value.holds, notHeld, bind, Except.bind, pure, Except.pure]

theorem rankAnswer_eq_rankItems (filterable : Filterable property items) (query : String) :
    rankAnswer (.list items) (.text query) = rankItems (.list items) property query := by
  obtain ⟨first, isFirst, isShown⟩ := filterable.shows
  cases items with
  | nil => cases isFirst
  | cons head rest =>
      cases isFirst
      have named := textProperty_of_shows isShown (filterable.haveTexts _ List.mem_cons_self)
      have item : (Value.list (first :: rest)).item 0 = .ok first := by
        simp [Value.item, Value.nth, Value.position?]
      change (answerItems (.list (first :: rest)) >>= fun items => do
        let property ← textProperty (← items.item 0)
        rankItems items property query) = _
      rw [answerItems_list filterable.unnamed]
      simp only [bind, Except.bind, item, named]

/-- A query chooses of the items of an answer. -/
theorem rankAnswer_chooses (filterable : Filterable property items) (typed : query ≠ "")
    (ascii : ∀ letter ∈ Bytes.ofString query, isAscii letter) :
    ∃ kept, rankAnswer (.list items) (.text query) = .ok (.list kept) ∧
      Chosen (Bytes.ofString query) (fun item => Bytes.ofString (textOf property item)) items kept := by
  obtain ⟨kept, ranked, chosen⟩ := rank_chooses (fun item => Bytes.ofString (textOf property item)) items
    (Bytes.ofString_ne_nil typed) ascii
  refine ⟨kept, ?_, chosen⟩
  rw [rankAnswer_eq_rankItems filterable, rankItems_eq_rank filterable.haveTexts typed, ranked]
  rfl

end Answers

end Ranking

end Typeahead

import Mathlib.Data.List.Chain
import Mathlib.Data.List.Induction
import Mathlib.Data.List.TakeWhile
import Mathlib.Order.Lattice
import Typeahead.Ranking

namespace Typeahead.Ranking

/-! The insertion sort of matches. Whatever the comparison is, nothing is lost or added, and items once sorted
keep their order when further ones are put in. Where no two items beat each other, no item beats the one right before
it. Where the comparison is by a key, the result is in the order of the keys, and keys that differ leave only one such
order. -/

variable {α : Type} {before : α → α → Bool}

/-- An item is put behind one that it does not beat, and in front of one that it beats. -/
theorem insert_between (before : α → α → Bool) (item : α) (sorted : List α) :
    ∃ front back, sorted = front ++ back ∧ insert before item sorted = front ++ item :: back ∧
      (∀ last, front.getLast? = some last → before item last = false) ∧
      (∀ next, back.head? = some next → before item next = true) := by
  cases sorted with
  | nil => exact ⟨[], [], rfl, rfl, nofun, nofun⟩
  | cons first rest =>
      cases beatsFirst : before item first with
      | true =>
          refine ⟨[], first :: rest, rfl, by simp [insert, beatsFirst], nofun, ?_⟩
          intro next isFirst
          cases isFirst
          exact beatsFirst
      | false =>
          let backwards := (first :: rest).reverse
          refine ⟨(backwards.dropWhile (before item)).reverse, (backwards.takeWhile (before item)).reverse,
            ?_, by simp [insert, beatsFirst, backwards], ?_, ?_⟩
          · rw [← List.reverse_append, List.takeWhile_append_dropWhile, List.reverse_reverse]
          · intro last isLast
            rw [List.getLast?_reverse] at isLast
            have stops := List.head?_dropWhile_not (before item) backwards
            rw [isLast] at stops
            simpa using stops
          · intro next isNext
            have member := List.mem_of_head? isNext
            exact List.mem_takeWhile_imp (List.mem_reverse.mp member)

theorem insert_perm (before : α → α → Bool) (item : α) (sorted : List α) :
    (insert before item sorted).Perm (item :: sorted) := by
  obtain ⟨front, back, cut, inserted, _⟩ := insert_between before item sorted
  rw [inserted, cut]
  exact List.perm_middle

theorem sublist_insert (before : α → α → Bool) (item : α) (sorted : List α) :
    sorted.Sublist (insert before item sorted) := by
  obtain ⟨front, back, cut, inserted, _⟩ := insert_between before item sorted
  rw [inserted, cut]
  exact (List.Sublist.refl front).append (List.sublist_cons_self item back)

theorem sort_concat (before : α → α → Bool) (items : List α) (item : α) :
    sort before (items ++ [item]) = insert before item (sort before items) := by
  simp [sort]

theorem sort_perm (before : α → α → Bool) (items : List α) : (sort before items).Perm items := by
  induction items using List.reverseRecOn with
  | nil => exact List.Perm.refl []
  | append_singleton items item ih =>
      rw [sort_concat]
      exact ((insert_perm before item _).trans (ih.cons item)).trans (List.perm_append_singleton item items).symm

/-- What comes later is put between the items that are already sorted. -/
theorem sort_sublist_append (before : α → α → Bool) (items later : List α) :
    (sort before items).Sublist (sort before (items ++ later)) := by
  induction later using List.reverseRecOn with
  | nil => simp
  | append_singleton later item ih =>
      rw [← List.append_assoc, sort_concat]
      exact ih.trans (sublist_insert before item _)

/-- Where no two items beat each other, inserting one keeps it so that no item beats the one right before it. -/
theorem isChain_insert {item : α} {sorted : List α}
    (asymmetric : ∀ listed ∈ sorted, before item listed = true → before listed item = false)
    (ordered : sorted.IsChain fun left right => before right left = false) :
    (insert before item sorted).IsChain fun left right => before right left = false := by
  obtain ⟨front, back, rfl, inserted, notBeaten, beaten⟩ := insert_between before item sorted
  obtain ⟨frontOrdered, backOrdered, _⟩ := List.isChain_append.mp ordered
  have overBack : ∀ next ∈ back.head?, before next item = false := by
    intro next isNext
    have member : next ∈ front ++ back := List.mem_append_right front (List.mem_of_mem_head? isNext)
    exact asymmetric next member (beaten next isNext)
  rw [inserted]
  refine List.isChain_append.mpr ⟨frontOrdered, List.isChain_cons.mpr ⟨overBack, backOrdered⟩, ?_⟩
  intro last isLast next isNext
  cases isNext
  exact notBeaten last isLast

theorem isChain_sort {items : List α}
    (asymmetric : ∀ left ∈ items, ∀ right ∈ items, before left right = true → before right left = false) :
    (sort before items).IsChain fun left right => before right left = false := by
  induction items using List.reverseRecOn with
  | nil => exact List.isChain_nil
  | append_singleton items item ih =>
      rw [sort_concat]
      apply isChain_insert
      · intro listed member
        have earlier := (sort_perm before items).mem_iff.mp member
        exact asymmetric item (by simp) listed (List.mem_append_left [item] earlier)
      · exact ih fun left leftMember right rightMember =>
          asymmetric left (List.mem_append_left [item] leftMember) right (List.mem_append_left [item] rightMember)

theorem insert_congr {other : α → α → Bool} {item : α} {sorted : List α}
    (agree : ∀ listed ∈ sorted, before item listed = other item listed) :
    insert before item sorted = insert other item sorted := by
  have takeAgree : ∀ items : List α, (∀ listed ∈ items, before item listed = other item listed) →
      items.takeWhile (before item) = items.takeWhile (other item) ∧
        items.dropWhile (before item) = items.dropWhile (other item) := by
    intro items same
    induction items with
    | nil => exact ⟨rfl, rfl⟩
    | cons first rest ih =>
        obtain ⟨taken, dropped⟩ := ih fun listed member => same listed (List.mem_cons_of_mem _ member)
        rw [List.takeWhile_cons, List.takeWhile_cons, List.dropWhile_cons, List.dropWhile_cons,
          same first List.mem_cons_self, taken, dropped]
        exact ⟨rfl, rfl⟩
  cases sorted with
  | nil => rfl
  | cons first rest =>
      obtain ⟨taken, dropped⟩ := takeAgree (first :: rest).reverse fun listed member =>
        agree listed (List.mem_reverse.mp member)
      simp only [insert, agree first List.mem_cons_self, taken, dropped]

/-- Only the comparison of each item with those that came before it decides the order. -/
theorem sort_congr {other : α → α → Bool} {items : List α}
    (agree : items.Pairwise fun earlier later => before later earlier = other later earlier) :
    sort before items = sort other items := by
  induction items using List.reverseRecOn with
  | nil => rfl
  | append_singleton items item ih =>
      obtain ⟨among, _, last⟩ := List.pairwise_append.mp agree
      rw [sort_concat, sort_concat, ih among]
      apply insert_congr
      intro listed member
      exact last listed ((sort_perm other items).mem_iff.mp member) item List.mem_cons_self

theorem insert_map {β : Type} (name : β → α) (item : β) (sorted : List β) :
    insert before (name item) (sorted.map name) =
      (insert (fun left right => before (name left) (name right)) item sorted).map name := by
  cases sorted with
  | nil => rfl
  | cons first rest =>
      have backwards : (name first :: rest.map name).reverse = (first :: rest).reverse.map name := by simp
      simp only [insert, List.map_cons, backwards, List.takeWhile_map, List.dropWhile_map, Function.comp_def]
      split
      · rfl
      · simp only [List.map_append, List.map_cons, List.map_reverse]

/-- Items are sorted alike under other names. -/
theorem sort_map {β : Type} (name : β → α) (items : List β) :
    sort before (items.map name) = (sort (fun left right => before (name left) (name right)) items).map name := by
  induction items using List.reverseRecOn with
  | nil => rfl
  | append_singleton items item ih =>
      rw [List.map_append, List.map_singleton, sort_concat, sort_concat, ih, insert_map]

section Key

variable {κ : Type} [LinearOrder κ]

/-- The comparison of items by their keys. -/
def byKey (key : α → κ) (left right : α) : Bool := decide (key left < key right)

theorem pairwise_insert_byKey (key : α → κ) (item : α) {sorted : List α}
    (ordered : sorted.Pairwise fun left right => key left ≤ key right) :
    (insert (byKey key) item sorted).Pairwise fun left right => key left ≤ key right := by
  obtain ⟨front, back, rfl, inserted, notBeaten, beaten⟩ := insert_between (byKey key) item sorted
  obtain ⟨frontOrdered, backOrdered, across⟩ := List.pairwise_append.mp ordered
  have frontBelow : ∀ listed ∈ front, key listed ≤ key item := by
    intro listed member
    cases front using List.reverseRecOn with
    | nil => simp at member
    | append_singleton rest last =>
        have lastBelow : key last ≤ key item := by simpa [byKey] using notBeaten last (by simp)
        rcases List.mem_append.mp member with earlier | isLast
        · exact ((List.pairwise_append.mp frontOrdered).2.2 listed earlier last (by simp)).trans lastBelow
        · rw [List.mem_singleton.mp isLast]
          exact lastBelow
  have backAbove : ∀ listed ∈ back, key item ≤ key listed := by
    intro listed member
    cases back with
    | nil => simp at member
    | cons next rest =>
        have nextAbove : key item < key next := by simpa [byKey] using beaten next rfl
        rcases List.mem_cons.mp member with rfl | later
        · exact nextAbove.le
        · exact nextAbove.le.trans ((List.pairwise_cons.mp backOrdered).1 listed later)
  rw [inserted]
  refine List.pairwise_append.mpr ⟨frontOrdered, List.pairwise_cons.mpr ⟨backAbove, backOrdered⟩, ?_⟩
  intro left leftMember right rightMember
  rcases List.mem_cons.mp rightMember with rfl | rightMember
  · exact frontBelow left leftMember
  · exact across left leftMember right rightMember

theorem pairwise_sort_byKey (key : α → κ) (items : List α) :
    (sort (byKey key) items).Pairwise fun left right => key left ≤ key right := by
  induction items using List.reverseRecOn with
  | nil => exact List.Pairwise.nil
  | append_singleton items item ih =>
      rw [sort_concat]
      exact pairwise_insert_byKey key item ih

/-- Items with different keys are sorted in one way, in whatever order they come. -/
theorem sort_byKey_eq_of_perm {key : α → κ} {left right : List α} (rearranged : left.Perm right)
    (different : ∀ first ∈ left, ∀ second ∈ left, key first = key second → first = second) :
    sort (byKey key) left = sort (byKey key) right := by
  apply List.Perm.eq_of_pairwise _ (pairwise_sort_byKey key left) (pairwise_sort_byKey key right)
  · exact ((sort_perm _ left).trans rearranged).trans (sort_perm _ right).symm
  · intro first second firstMember secondMember upward downward
    have firstListed := (sort_perm _ left).mem_iff.mp firstMember
    have secondListed := rearranged.mem_iff.mpr ((sort_perm _ right).mem_iff.mp secondMember)
    exact different first firstListed second secondListed (le_antisymm upward downward)

end Key

end Typeahead.Ranking

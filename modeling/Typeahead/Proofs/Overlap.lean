import Mathlib.Order.Bounds.Basic
import Typeahead.Insertion

namespace Typeahead.Insertion

/-! The overlap of two texts: the longest ending of the first with which the second starts. The search jumps ahead to
where the ending tried last was found. It passes over nothing, as every longer overlap has that ending inside it, and
it ends, as the texts it is made for are of one length and differ. -/

variable {part text left right : List Char} {length longer best index : Nat}

theorem isLeast_indexOf? (found : indexOf? part text = some index) :
    IsLeast {place | part <+: text.drop place} index := by
  induction text generalizing index with
  | nil =>
      have isEmpty : part = [] ∧ 0 = index := by simpa [indexOf?] using found
      obtain ⟨rfl, rfl⟩ := isEmpty
      exact ⟨ List.nil_prefix, fun _ _ => Nat.zero_le _⟩
  | cons character rest ih =>
      rw [indexOf?] at found
      split at found
      · rename_i here
        cases found
        exact ⟨List.isPrefixOf_iff_prefix.mp here, fun _ _ => Nat.zero_le _⟩
      · rename_i notHere
        obtain ⟨later, foundLater, rfl⟩ := Option.map_eq_some_iff.mp found
        obtain ⟨occurs, first⟩ := ih foundLater
        refine ⟨occurs, fun place there => ?_⟩
        cases place with
        | zero => exact absurd (List.isPrefixOf_iff_prefix.mpr there) notHere
        | succ place => exact Nat.succ_le_succ (first there)

theorem exists_indexOf?_of_prefix_drop (occurs : part <+: text.drop index) :
    ∃ first, indexOf? part text = some first := by
  induction text generalizing index with
  | nil =>
      have isEmpty : part = [] := by simpa using occurs
      exact ⟨0, by simp [indexOf?, isEmpty]⟩
  | cons character rest ih =>
      rw [indexOf?]
      split
      · exact ⟨0, rfl⟩
      · rename_i notHere
        cases index with
        | zero => exact absurd (List.isPrefixOf_iff_prefix.mpr occurs) notHere
        | succ index =>
            obtain ⟨first, found⟩ := ih occurs
            exact ⟨first + 1, by rw [found, Option.map_some]⟩

@[simp] theorem length_ending (length : Nat) (text : List Char) :
    (ending length text).length = min length text.length := by
  rw [ending, List.length_drop]
  omega

theorem ending_of_length_le (all : text.length ≤ length) : ending length text = text := by
  rw [ending, Nat.sub_eq_zero_of_le all, List.drop_zero]

theorem ending_ending (shorter : length ≤ longer) (text : List Char) :
    ending length (ending longer text) = ending length text := by
  rw [ending, length_ending, ending, ending, List.drop_drop]
  congr 1
  omega

/-- The last characters of one text, as many as are given, are the first of the other. -/
structure Overlaps (left right : List Char) (length : Nat) : Prop where
  inLeft : length ≤ left.length
  inRight : length ≤ right.length
  same : ending length left = right.take length

namespace Overlaps

theorem zero (left right : List Char) : Overlaps left right 0 :=
  ⟨Nat.zero_le _, Nat.zero_le _, by simp [ending]⟩

theorem of_same (inRight : length ≤ right.length) (same : ending length left = right.take length) :
    Overlaps left right length := by
  refine ⟨?_, inRight, same⟩
  have lengths := congrArg List.length same
  rw [length_ending, List.length_take] at lengths
  omega

/-- A longer overlap has every shorter ending at its end, so the other text has that ending inside it. -/
theorem prefix_drop (overlap : Overlaps left right longer) (shorter : length ≤ longer) :
    ending length left <+: right.drop (longer - length) := by
  have inside : ending length left = (right.take longer).drop (longer - length) := by
    rw [← ending_ending shorter, overlap.same, ending, List.length_take, Nat.min_eq_left overlap.inRight]
  rw [inside, List.drop_take]
  exact List.take_prefix _ _

/-- Only the end of the first text and the start of the second matter, each as long as the shorter text. -/
theorem shorten_iff :
    Overlaps (ending (min left.length right.length) left) (right.take (min left.length right.length)) length ↔
      Overlaps left right length := by
  constructor
  · intro overlap
    have short : length ≤ min left.length right.length := by simpa using overlap.inLeft
    refine ⟨short.trans (Nat.min_le_left _ _), short.trans (Nat.min_le_right _ _), ?_⟩
    have same := overlap.same
    rwa [ending_ending short, List.take_take, Nat.min_eq_left short] at same
  · intro overlap
    have short : length ≤ min left.length right.length := Nat.le_min.mpr ⟨overlap.inLeft, overlap.inRight⟩
    refine ⟨by simpa using short, by simpa using short, ?_⟩
    rw [ending_ending short, List.take_take, Nat.min_eq_left short]
    exact overlap.same

end Overlaps

/-- The best overlap among those shorter than a length. -/
def BestBelow (left right : List Char) (length best : Nat) : Prop :=
  IsGreatest {shorter | Overlaps left right shorter ∧ shorter < length} best

namespace BestBelow

theorem first (left right : List Char) : BestBelow left right 1 0 :=
  ⟨⟨Overlaps.zero left right, Nat.one_pos⟩, fun _ shorter => Nat.lt_one_iff.mp shorter.2 ▸ le_rfl⟩

theorem of_overlaps (overlap : Overlaps left right length) : BestBelow left right (length + 1) length :=
  ⟨⟨overlap, Nat.lt_succ_self length⟩, fun _ shorter => Nat.lt_succ_iff.mp shorter.2⟩

theorem jump (known : BestBelow left right length best) (found : indexOf? (ending length left) right = some index) :
    BestBelow left right (length + index) best := by
  refine ⟨⟨known.1.1, known.1.2.trans_le (Nat.le_add_right _ _)⟩, ?_⟩
  rintro shorter ⟨overlap, below⟩
  by_cases tried : shorter < length
  · exact known.2 ⟨overlap, tried⟩
  · -- its start has the ending inside it, and not before the first place
    have occurs := overlap.prefix_drop (Nat.le_of_not_lt tried)
    have first : index ≤ shorter - length := (isLeast_indexOf? found).2 occurs
    omega

theorem isGreatest (known : BestBelow left right length best)
    (none : ∀ longer, Overlaps left right longer → longer < length) :
    IsGreatest {length | Overlaps left right length} best :=
  ⟨known.1.1, fun longer overlap => known.2 ⟨overlap, none longer overlap⟩⟩

end BestBelow

theorem add_le_of_indexOf? (short : length ≤ left.length) (found : indexOf? (ending length left) right = some index)
    (positive : 0 < length) : length + index ≤ right.length := by
  have occurs := (isLeast_indexOf? found).1.length_le
  rw [length_ending, List.length_drop] at occurs
  omega

theorem ending_eq_take_of_indexOf?_zero (short : length ≤ left.length)
    (found : indexOf? (ending length left) right = some 0) : ending length left = right.take length := by
  have starts := List.prefix_iff_eq_take.mp (isLeast_indexOf? found).1
  rwa [length_ending, Nat.min_eq_left short, List.drop_zero] at starts

/-- Every turn of the search keeps the best overlap below the length it has come to, so the last one is the best. -/
theorem isGreatest_overlapFrom (positive : 0 < length) (known : BestBelow left right length best) :
    IsGreatest {length | Overlaps left right length} (overlapFrom left right length best) := by
  fun_induction overlapFrom left right length best with
  | case1 length best beyond =>
      exact known.isGreatest fun longer overlap => overlap.inLeft.trans_lt beyond
  | case2 length best within absent =>
      refine known.isGreatest fun longer overlap => Nat.lt_of_not_le fun reaches => ?_
      obtain ⟨first, found⟩ := exists_indexOf?_of_prefix_drop (overlap.prefix_drop reaches)
      rw [absent] at found
      cases found
  | case3 length best within found ih =>
      have inRight := add_le_of_indexOf? (Nat.le_of_not_lt within) found positive
      have starts := ending_eq_take_of_indexOf?_zero (Nat.le_of_not_lt within) found
      exact ih (Nat.succ_pos _) (.of_overlaps (.of_same inRight starts))
  | case4 length best within found isFound longer same ih =>
      have inRight := add_le_of_indexOf? (Nat.le_of_not_lt within) isFound positive
      exact ih (Nat.succ_pos _) (.of_overlaps (.of_same inRight (eq_of_beq same)))
  | case5 length best within found isFound longer differs ih =>
      exact ih (Nat.succ_pos _) (known.jump isFound)

/-- The search as it goes, with no bound on the length: it stops only where the ending is not found. Whatever is
related to a length and a best overlap is what the search from there ends with. -/
inductive Search (left right : List Char) : Nat → Nat → Nat → Prop where
  | absent {length best : Nat} (missing : indexOf? (ending length left) right = none) :
      Search left right length best best
  | better {length best index result : Nat} (found : indexOf? (ending length left) right = some index)
      (same : ending (length + index) left = right.take (length + index))
      (rest : Search left right (length + index + 1) (length + index) result) : Search left right length best result
  | jump {length best index result : Nat} (found : indexOf? (ending length left) right = some index)
      (differs : ending (length + index) left ≠ right.take (length + index))
      (rest : Search left right (length + index) best result) : Search left right length best result

theorem indexOf?_eq_none_of_length_eq (sameLength : left.length = right.length) (different : left ≠ right) :
    indexOf? left right = none := by
  cases found : indexOf? left right with
  | none => rfl
  | some index =>
      have occurs := (isLeast_indexOf? found).1
      have fits := occurs.length_le
      rw [List.length_drop] at fits
      have atStart : index = 0 ∨ right.length = 0 := by omega
      rcases atStart with rfl | empty
      · exact absurd (occurs.eq_of_length sameLength) different
      · have bothEmpty : left = right := by
          rw [List.eq_nil_of_length_eq_zero empty, List.eq_nil_of_length_eq_zero (sameLength.trans empty)]
        exact absurd bothEmpty different

theorem search_overlapFrom (sameLength : left.length = right.length) (different : left ≠ right) (length best : Nat) :
    Search left right length best (overlapFrom left right length best) := by
  fun_induction overlapFrom left right length best with
  | case1 length best beyond =>
      -- beyond both texts the ending is all of the first, which is not inside another text of its length
      apply Search.absent
      rw [ending_of_length_le beyond.le]
      exact indexOf?_eq_none_of_length_eq sameLength different
  | case2 length best within absent => exact .absent absent
  | case3 length best within found ih =>
      exact .better found (ending_eq_take_of_indexOf?_zero (Nat.le_of_not_lt within) found) ih
  | case4 length best within found isFound longer same ih => exact .better isFound (eq_of_beq same) ih
  | case5 length best within found isFound longer differs ih =>
      exact .jump isFound (fun same => differs (beq_iff_eq.mpr same)) ih

/-- Either the shorter text is all overlap, or the search is made, on the end of the first text and the start of the
second that are as long as the shorter one. -/
theorem overlapLength_cases (left right : List Char) :
    let shorter := min left.length right.length
    (ending shorter left = right.take shorter ∧ overlapLength left right = shorter) ∨
      (ending shorter left ≠ right.take shorter ∧
        overlapLength left right = overlapFrom (ending shorter left) (right.take shorter) 1 0) := by
  intro shorter
  unfold overlapLength
  split
  · rename_i oneEmpty
    have nothing : shorter = 0 := by
      rcases Bool.or_eq_true_iff.mp oneEmpty with empty | empty
      · simp [shorter, List.isEmpty_iff.mp empty]
      · simp [shorter, List.isEmpty_iff.mp empty]
    exact Or.inl ⟨by simp [nothing, ending], nothing.symm⟩
  · dsimp only
    split
    · rename_i same
      exact Or.inl ⟨eq_of_beq same, rfl⟩
    · rename_i differs
      exact Or.inr ⟨fun same => differs (beq_iff_eq.mpr same), rfl⟩

theorem isGreatest_overlapLength (left right : List Char) :
    IsGreatest {length | Overlaps left right length} (overlapLength left right) := by
  rcases overlapLength_cases left right with ⟨same, isShorter⟩ | ⟨_, isSearched⟩
  · rw [isShorter]
    refine ⟨⟨Nat.min_le_left _ _, Nat.min_le_right _ _, same⟩, fun length overlap => ?_⟩
    exact Nat.le_min.mpr ⟨overlap.inLeft, overlap.inRight⟩
  · rw [isSearched]
    have greatest := isGreatest_overlapFrom Nat.one_pos
      (BestBelow.first (ending (min left.length right.length) left) (right.take (min left.length right.length)))
    simpa only [Overlaps.shorten_iff] using greatest

theorem search_overlapLength (left right : List Char) :
    overlapLength left right = min left.length right.length ∨
      Search (ending (min left.length right.length) left) (right.take (min left.length right.length)) 1 0
        (overlapLength left right) := by
  rcases overlapLength_cases left right with ⟨_, isShorter⟩ | ⟨different, isSearched⟩
  · exact Or.inl isShorter
  · rw [isSearched]
    refine Or.inr (search_overlapFrom ?_ different 1 0)
    rw [length_ending, List.length_take]
    omega

/-- The overlap of two texts is the longest ending of the first with which the second starts. Either it is the whole of
the shorter text, or the search for it ends, and with it. -/
theorem overlapLength_longest (left right : List Char) :
    IsGreatest
        {length | length ≤ left.length ∧ length ≤ right.length ∧ ending length left = right.take length}
        (overlapLength left right) ∧
      (overlapLength left right = min left.length right.length ∨
        Search (ending (min left.length right.length) left) (right.take (min left.length right.length)) 1 0
          (overlapLength left right)) := by
  obtain ⟨overlap, longest⟩ := isGreatest_overlapLength left right
  refine ⟨⟨⟨overlap.inLeft, overlap.inRight, overlap.same⟩, ?_⟩, search_overlapLength left right⟩
  rintro length ⟨inLeft, inRight, same⟩
  exact longest ⟨inLeft, inRight, same⟩

example : overlapLength "foo baro".toList "baro zoo".toList = 4 := by decide +kernel

end Typeahead.Insertion

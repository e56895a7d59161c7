import Typeahead.Match

namespace Typeahead

/-! The table of common-subsequence lengths. Each row holds the lengths for one more letter of the longer text
against all beginnings of the shorter one, so the last entry of the last row is the length for both texts. -/

open Letter

/-- Length of a longest common subsequence, case aside, by the letters that two texts start with. -/
def longest : Bytes → Bytes → Nat
  | [], _ => 0
  | _ :: _, [] => 0
  | letter :: first, other :: second =>
    if upper letter = upper other then longest first second + 1
    else max (longest (letter :: first) second) (longest first (other :: second))
termination_by first second => first.length + second.length

@[simp] theorem longest_nil_left (second : Bytes) : longest [] second = 0 := by rw [longest]

@[simp] theorem longest_nil_right (first : Bytes) : longest first [] = 0 := by
  cases first with
  | nil => exact longest_nil_left []
  | cons letter first => rw [longest]

theorem longest_le_length (first second : Bytes) :
    longest first second ≤ first.length ∧ longest first second ≤ second.length := by
  fun_induction longest first second with
  | case1 second => simp
  | case2 letter first => simp
  | case3 letter first other second same ih =>
      simp only [List.length_cons]
      omega
  | case4 letter first other second different left right =>
      simp only [List.length_cons] at left right ⊢
      omega

/-- The row for a text against the beginnings of another. Both texts are taken from their ends, and `passed` is
the part of the other that lies before the row. -/
def rowFrom (text passed : Bytes) : Bytes → List Nat
  | [] => []
  | other :: rest => longest text (other :: passed) :: rowFrom text (other :: passed) rest

theorem commonRow_rowFrom (letter : UInt8) (text passed rest : Bytes) :
    commonRow letter (longest text passed) (longest (letter :: text) passed) rest (rowFrom text passed rest) =
      rowFrom (letter :: text) passed rest := by
  induction rest generalizing passed with
  | nil => rfl
  | cons other rest ih =>
      have entry : (if upper letter == upper other then longest text passed + 1
          else max (longest (letter :: text) passed) (longest text (other :: passed))) =
          longest (letter :: text) (other :: passed) := by
        rw [longest]
        simp only [beq_iff_eq]
      simp only [rowFrom, commonRow, entry, ih]

theorem commonRows_rowFrom (shorter text longer : Bytes) :
    commonRows shorter (rowFrom text [] shorter) longer = rowFrom (longer.reverse ++ text) [] shorter := by
  induction longer generalizing text with
  | nil => rfl
  | cons letter longer ih =>
      have row := commonRow_rowFrom letter text [] shorter
      rw [longest_nil_right, longest_nil_right] at row
      rw [commonRows, row, ih, List.reverse_cons, List.append_assoc]
      rfl

theorem rowFrom_nil (passed rest : Bytes) : rowFrom [] passed rest = List.replicate rest.length 0 := by
  induction rest generalizing passed with
  | nil => rfl
  | cons other rest ih => rw [rowFrom, longest_nil_left, ih, List.length_cons, List.replicate_succ]

theorem getLastD_rowFrom (text passed rest : Bytes) :
    (rowFrom text passed rest).getLastD (longest text passed) = longest text (rest.reverse ++ passed) := by
  induction rest generalizing passed with
  | nil => rfl
  | cons other rest ih =>
      rw [rowFrom, List.getLastD_cons, ih, List.reverse_cons, List.append_assoc]
      rfl

/-- The length that the table gives is that of the recursion on both texts, taken from their ends. -/
theorem commonLength_eq (first second : Bytes) :
    commonLength first second =
      if first.length > second.length then longest first.reverse second.reverse
      else longest second.reverse first.reverse := by
  have table : ∀ longer shorter : Bytes,
      (commonRows shorter (List.replicate shorter.length 0) longer).getLastD 0 =
        longest longer.reverse shorter.reverse := by
    intro longer shorter
    have last := getLastD_rowFrom longer.reverse [] shorter
    rw [longest_nil_right, List.append_nil] at last
    rw [← rowFrom_nil [] shorter, commonRows_rowFrom, List.append_nil, last]
  unfold commonLength
  split
  · exact table first second
  · exact table second first

theorem commonLength_le (first second : Bytes) :
    commonLength first second ≤ first.length ∧ commonLength first second ≤ second.length := by
  rw [commonLength_eq]
  split
  · simpa using longest_le_length first.reverse second.reverse
  · simpa using (longest_le_length second.reverse first.reverse).symm

end Typeahead

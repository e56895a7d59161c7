import Mathlib.Data.List.Forall2
import Typeahead.Ranking

namespace Typeahead

/-! Smart case: which letter of a text may stand for a letter of a query, and which texts have all letters of
a query in order. A query embeds in a text as `List.SublistForall₂` says; the greedy choice, which takes the
first letter that will do, finds an embedding whenever there is one. -/

namespace Letter

theorem isUpper_iff {letter : UInt8} : isUpper letter ↔ 65 ≤ letter.toNat ∧ letter.toNat ≤ 90 := by
  simp [isUpper, UInt8.le_iff_toNat_le]

theorem isLower_iff {letter : UInt8} : isLower letter ↔ 97 ≤ letter.toNat ∧ letter.toNat ≤ 122 := by
  simp [isLower, UInt8.le_iff_toNat_le]

theorem isAscii_iff {letter : UInt8} : isAscii letter ↔ letter.toNat < 128 := by
  simp [isAscii, UInt8.lt_iff_toNat_lt]

theorem isPrintable_iff {letter : UInt8} : isPrintable letter ↔ 32 ≤ letter.toNat ∧ letter.toNat ≤ 126 := by
  simp [isPrintable, UInt8.le_iff_toNat_le]

theorem isAscii_of_isPrintable {letter : UInt8} (printable : isPrintable letter) : isAscii letter := by
  have bounds := isPrintable_iff.mp printable
  exact isAscii_iff.mpr (by omega)

theorem toNat_lower (letter : UInt8) :
    (lower letter).toNat = if isUpper letter then letter.toNat + 32 else letter.toNat := by
  unfold lower
  split
  · rename_i isUpper
    have bounds := isUpper_iff.mp isUpper
    rw [UInt8.toNat_add]
    simp only [UInt8.reduceToNat]
    omega
  · rfl

theorem toNat_lower_lt {letter : UInt8} (ascii : isAscii letter) : (lower letter).toNat < 128 := by
  have bound := isAscii_iff.mp ascii
  rw [toNat_lower]
  split
  · rename_i isUpper
    have bounds := isUpper_iff.mp isUpper
    omega
  · exact bound

theorem eq_of_lower_eq {left right : UInt8} (leftUpper : isUpper left) (rightUpper : isUpper right)
    (same : lower left = lower right) : left = right := by
  simp only [lower, leftUpper, rightUpper, if_true] at same
  exact (UInt8.add_left_inj 32).mp same

/-- Whether a letter of a text may stand for one of a query. Where case counts, an upper-case letter is
matched by itself alone; every other letter is matched by both of its cases. -/
def Accepts (caseSensitive : Bool) (wanted found : UInt8) : Prop :=
  if caseSensitive && isUpper wanted then found = wanted else lower found = lower wanted

instance (caseSensitive : Bool) (wanted found : UInt8) : Decidable (Accepts caseSensitive wanted found) :=
  inferInstanceAs (Decidable (if caseSensitive && isUpper wanted then found = wanted else lower found = lower wanted))

theorem Accepts.lower_eq {caseSensitive : Bool} {wanted found : UInt8}
    (accepted : Accepts caseSensitive wanted found) : lower found = lower wanted := by
  unfold Accepts at accepted
  split at accepted
  · rw [accepted]
  · exact accepted

end Letter

/-- Where case counts, the letters of both cases that an upper-case letter of the query accepts are the
upper-case ones. -/
theorem Letter.accepts_iff_isUpper {wanted found : UInt8} (upper : isUpper wanted)
    (same : lower found = lower wanted) : Accepts true wanted found ↔ isUpper found := by
  simp only [Accepts, upper, Bool.and_self, if_true]
  constructor
  · rintro rfl
    exact upper
  · intro foundUpper
    exact eq_of_lower_eq foundUpper upper same

section Embedding

variable {α β : Type} {relation : α → β → Prop} {wanted : α} {query : List α} {found : β} {text : List β}

theorem exists_rel_of_sublistForall₂ (embeds : List.SublistForall₂ relation query text) :
    ∀ wanted ∈ query, ∃ found ∈ text, relation wanted found := by
  induction embeds with
  | nil => simp
  | cons accepted _ ih =>
      intro wanted member
      rcases List.mem_cons.mp member with rfl | later
      · exact ⟨_, List.mem_cons_self, accepted⟩
      · obtain ⟨found, within, related⟩ := ih wanted later
        exact ⟨found, List.mem_cons_of_mem _ within, related⟩
  | cons_right _ ih =>
      intro wanted member
      obtain ⟨found, within, related⟩ := ih wanted member
      exact ⟨found, List.mem_cons_of_mem _ within, related⟩

theorem sublistForall₂_of_cons (embeds : List.SublistForall₂ relation (wanted :: query) text) :
    List.SublistForall₂ relation query text := by
  induction text with
  | nil => cases embeds
  | cons found text ih =>
      cases embeds with
      | cons _ rest => exact rest.cons_right
      | cons_right later => exact (ih later).cons_right

theorem sublistForall₂_cons_of_rel (accepted : relation wanted found) :
    List.SublistForall₂ relation (wanted :: query) (found :: text) ↔ List.SublistForall₂ relation query text := by
  constructor
  · intro embeds
    cases embeds with
    | cons _ rest => exact rest
    | cons_right later => exact sublistForall₂_of_cons later
  · exact List.SublistForall₂.cons accepted

theorem sublistForall₂_cons_of_not_rel (refused : ¬ relation wanted found) :
    List.SublistForall₂ relation (wanted :: query) (found :: text) ↔
      List.SublistForall₂ relation (wanted :: query) text := by
  constructor
  · intro embeds
    cases embeds with
    | cons accepted _ => exact absurd accepted refused
    | cons_right later => exact later
  · exact List.SublistForall₂.cons_right

instance decidableSublistForall₂ [∀ wanted found, Decidable (relation wanted found)] :
    (query : List α) → (text : List β) → Decidable (List.SublistForall₂ relation query text)
  | [], _ => .isTrue .nil
  | _ :: _, [] => .isFalse nofun
  | wanted :: query, found :: text =>
    if accepted : relation wanted found then
      let _ := decidableSublistForall₂ query text
      decidable_of_iff (List.SublistForall₂ relation query text) (sublistForall₂_cons_of_rel accepted).symm
    else
      let _ := decidableSublistForall₂ (wanted :: query) text
      decidable_of_iff (List.SublistForall₂ relation (wanted :: query) text)
        (sublistForall₂_cons_of_not_rel accepted).symm

/-- The first letter that is accepted may be taken: what the rest of the query needs is then still ahead. -/
theorem sublistForall₂_cons_iff [∀ wanted found, Decidable (relation wanted found)] :
    List.SublistForall₂ relation (wanted :: query) text ↔
      ∃ position, text.findIdx? (fun found => decide (relation wanted found)) = some position ∧
        List.SublistForall₂ relation query (text.drop (position + 1)) := by
  induction text with
  | nil =>
      constructor
      · intro embeds
        cases embeds
      · rintro ⟨position, located, _⟩
        simp at located
  | cons found text ih =>
      by_cases accepted : relation wanted found
      · rw [sublistForall₂_cons_of_rel accepted]
        simp [List.findIdx?_cons, accepted]
      · rw [sublistForall₂_cons_of_not_rel accepted, ih]
        simp [List.findIdx?_cons, accepted]

end Embedding

end Typeahead

import Mathlib.Data.List.TakeWhile
import Typeahead.Text.Alphanumeric
import Typeahead.Text.Basic

namespace Typeahead.Text

/-! What a text starts with, its pieces between separators, the blanks around them, the characters of numerals, and
texts each of which is kept once. -/

variable {separator : Char} {text piece : List Char}

section Starts

variable {text start : String}

theorem startsWith_iff (text start : String) : startsWith text start = true ↔ start.toList <+: text.toList :=
  List.isPrefixOf_iff_prefix

theorem startsWith_append (start rest : String) : startsWith (start ++ rest) start := by
  rw [startsWith_iff, String.toList_append]
  exact List.prefix_append _ _

theorem drop_append (start rest : String) : drop start.length (start ++ rest) = rest := by
  rw [drop, String.toList_append, ← String.length_toList, List.drop_left, String.ofList_toList]

theorem eq_append_drop (starts : startsWith text start) : text = start ++ drop start.length text := by
  obtain ⟨rest, cut⟩ := (startsWith_iff text start).mp starts
  apply String.toList_injective
  rw [String.toList_append, drop, String.toList_ofList, ← cut, ← String.length_toList, List.drop_left]

end Starts

section Split

theorem splitChars_eq_splitOn (separator : Char) (text : List Char) :
    splitChars separator text = text.splitOn separator := by
  induction text with
  | nil => simp [splitChars]
  | cons character text ih =>
      obtain ⟨piece, pieces, isSplit⟩ := List.exists_cons_of_ne_nil (List.splitOn_ne_nil separator text)
      rw [splitChars, ih, List.splitOn_cons_eq_if_modifyHead, isSplit]
      rfl

theorem not_mem_of_mem_splitChars (isPiece : piece ∈ splitChars separator text) : separator ∉ piece := by
  induction text generalizing piece with
  | nil =>
      rw [splitChars, List.mem_singleton] at isPiece
      simp [isPiece]
  | cons character text ih =>
      rw [splitChars] at isPiece
      cases isSplit : splitChars separator text with
      | nil => simp [splitChars_eq_splitOn, List.splitOn_ne_nil] at isSplit
      | cons first pieces =>
          rw [isSplit] at ih isPiece
          by_cases same : character = separator
          · simp only [beq_iff_eq, same, if_true, List.mem_cons] at isPiece
            rcases isPiece with rfl | later
            · simp
            · exact ih (List.mem_cons.mpr later)
          · simp only [beq_iff_eq, same, if_false, List.mem_cons] at isPiece
            rcases isPiece with rfl | later
            · simp [Ne.symm same, ih List.mem_cons_self]
            · exact ih (List.mem_cons_of_mem _ later)

theorem not_mem_of_mem_split {text piece : String} (isPiece : piece ∈ split separator text) :
    separator ∉ piece.toList := by
  obtain ⟨letters, isLetters, rfl⟩ := List.mem_map.mp isPiece
  rw [String.toList_ofList]
  exact not_mem_of_mem_splitChars isLetters

theorem split_of_not_mem {text : String} (absent : separator ∉ text.toList) : split separator text = [text] := by
  rw [split, splitChars_eq_splitOn, List.splitOn_eq_singleton absent, List.map_singleton, String.ofList_toList]

theorem split_append (first second : String) :
    split separator (first ++ String.singleton separator ++ second) = split separator first ++ split separator second := by
  simp only [split, splitChars_eq_splitOn, String.toList_append, String.toList_singleton, List.append_assoc,
    List.singleton_append, List.splitOn_append_cons_self, List.map_append]

theorem length_splitChars (separator : Char) (text : List Char) :
    (splitChars separator text).length = text.count separator + 1 := by
  induction text with
  | nil => rfl
  | cons character text ih =>
      obtain ⟨piece, pieces, isSplit⟩ : ∃ piece pieces, splitChars separator text = piece :: pieces := by
        rw [splitChars_eq_splitOn]
        exact List.exists_cons_of_ne_nil (List.splitOn_ne_nil separator text)
      rw [isSplit] at ih
      rw [splitChars, isSplit, List.count_cons]
      by_cases same : character = separator
      · simpa [same] using ih
      · simpa [same] using ih

theorem length_split (separator : Char) (text : String) :
    (split separator text).length = text.toList.count separator + 1 := by
  rw [split, List.length_map, length_splitChars]

end Split

section Blanks

/-- White space and letters are different characters, among those of ASCII and beyond them. -/
theorem isSpace_of_isAlphanumeric {character : Char} (isLetter : isAlphanumeric character = true) :
    isSpace character = false := by
  by_cases ascii : character.toNat < 128
  · have apart : ∀ code < 128, isAlphanumeric (Char.ofNat code) = true → isSpace (Char.ofNat code) = false := by
      decide +kernel
    have here := apart character.toNat ascii
    rw [Char.ofNat_toNat] at here
    exact here isLetter
  · have apart : ∀ letters ∈ alphanumericRanges, ∀ spaces ∈ spaceRanges,
        letters.2 < spaces.1 ∨ spaces.2 < letters.1 := by
      decide +kernel
    rw [isAlphanumeric, if_neg ascii, List.any_eq_true] at isLetter
    obtain ⟨letters, amongLetters, inLetters⟩ := isLetter
    rw [isSpace, List.any_eq_false]
    intro spaces amongSpaces
    have outside := apart letters amongLetters spaces amongSpaces
    simp only [Bool.and_eq_true, decide_eq_true_eq] at inLetters ⊢
    omega

theorem stripChars_dropWhile (text : List Char) : stripChars (text.dropWhile isSpace) = stripChars text := by
  have again : (text.dropWhile isSpace).dropWhile isSpace = text.dropWhile isSpace :=
    List.dropWhile_eq_self_iff.mpr (List.dropWhile_get_zero_not isSpace text)
  rw [stripChars, stripChars, again]

theorem strip_of_blank (blank : ∀ character ∈ text, isSpace character = true) : strip (String.ofList text) = "" := by
  have nothing : text.dropWhile isSpace = [] := List.dropWhile_eq_nil_iff.mpr blank
  rw [strip, stripChars, String.toList_ofList, nothing]
  rfl

end Blanks

section Numerals

variable {character : Char}

theorem not_mem_numeral (notDigit : character.isDigit = false) (number : Nat) :
    character ∉ (toString number).toList := by
  intro member
  change character ∈ number.repr.toList at member
  rw [Nat.repr_eq_ofList_toDigits, String.toList_ofList] at member
  have isDigit := Nat.isDigit_of_mem_toDigits (by decide) (by decide) member
  simp [notDigit] at isDigit

theorem not_mem_number (notDigit : character.isDigit = false) (notSign : character ≠ '-') (number : Int) :
    character ∉ (toString number).toList := by
  cases number with
  | ofNat number => exact not_mem_numeral notDigit number
  | negSucc number =>
      change character ∉ ("-" ++ toString (number + 1)).toList
      rw [String.toList_append, List.mem_append]
      exact not_or.mpr ⟨by simpa using notSign, not_mem_numeral notDigit (number + 1)⟩

end Numerals

theorem eraseDups_concat (texts : List String) (text : String) :
    (texts ++ [text]).eraseDups = if text ∈ texts then texts.eraseDups else texts.eraseDups ++ [text] := by
  rw [List.eraseDups_append]
  by_cases seen : text ∈ texts <;> simp [List.removeAll, seen, List.eraseDups_cons]

end Typeahead.Text

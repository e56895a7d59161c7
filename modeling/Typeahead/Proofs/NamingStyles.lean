import Typeahead.Proofs.SmartCase

namespace Typeahead

/-! Words in names. A name is written from words with underscores between them, in lower case or in capitals, or with
each word after the first one marked by a capital. The letters that start a word are found in all of these, and they
are the same. -/

open Letter

namespace Letter

theorem ne_underscore_of_isLower {letter : UInt8} (low : isLower letter) : letter ≠ underscore := by
  rintro rfl
  exact absurd low (by decide)

theorem ne_underscore_of_isUpper {letter : UInt8} (up : isUpper letter) : letter ≠ underscore := by
  rintro rfl
  exact absurd up (by decide)

theorem not_isUpper_of_isLower {letter : UInt8} (low : isLower letter) : ¬ isUpper letter := by
  have bounds := isLower_iff.mp low
  rw [isUpper_iff]
  omega

theorem toNat_upper {letter : UInt8} (low : isLower letter) : (upper letter).toNat = letter.toNat - 32 := by
  have bounds := isLower_iff.mp low
  rw [upper, if_pos low, UInt8.toNat_sub_of_le]
  · rfl
  · exact UInt8.le_iff_toNat_le.mpr (Nat.le_trans (by decide) bounds.1)

theorem isUpper_upper {letter : UInt8} (low : isLower letter) : isUpper (upper letter) := by
  have bounds := isLower_iff.mp low
  rw [isUpper_iff, toNat_upper low]
  omega

theorem lower_of_isLower {letter : UInt8} (low : isLower letter) : lower letter = letter :=
  if_neg (not_isUpper_of_isLower low)

theorem lower_upper {letter : UInt8} (low : isLower letter) : lower (upper letter) = letter := by
  have bounds := isLower_iff.mp low
  apply UInt8.toNat_inj.mp
  rw [toNat_lower, if_pos (isUpper_upper low), toNat_upper low]
  omega

end Letter

section Boundaries

variable {previous letter : UInt8} {text : Bytes}

/-- A letter starts a word where it stands after another one. -/
def StartsWord (previous letter : UInt8) : Prop :=
  (isUpper letter ∧ ¬ isUpper previous) ∨ (previous = underscore ∧ isAlpha letter)

theorem wordBoundariesAfter_cons_of_starts (starts : StartsWord previous letter) (rest : Bytes) :
    wordBoundariesAfter previous (letter :: rest) = lower letter :: wordBoundariesAfter letter rest := by
  rw [wordBoundariesAfter, if_pos]
  simpa [StartsWord] using starts

theorem wordBoundariesAfter_cons_of_not_starts (inside : ¬ StartsWord previous letter) (rest : Bytes) :
    wordBoundariesAfter previous (letter :: rest) = wordBoundariesAfter letter rest := by
  rw [wordBoundariesAfter, if_neg]
  simpa [StartsWord] using inside

theorem wordBoundariesAfter_underscore (previous : UInt8) (rest : Bytes) :
    wordBoundariesAfter previous (underscore :: rest) = wordBoundariesAfter underscore rest := by
  apply wordBoundariesAfter_cons_of_not_starts
  rintro (⟨up, _⟩ | ⟨_, alpha⟩)
  · exact ne_underscore_of_isUpper up rfl
  · exact absurd alpha (by decide)

theorem wordBoundariesAfter_underscores (count : Nat) (text : Bytes) :
    wordBoundariesAfter underscore (List.replicate count underscore ++ text) = wordBoundariesAfter underscore text := by
  induction count with
  | zero => rfl
  | succ count ih => rw [List.replicate_succ, List.cons_append, wordBoundariesAfter_underscore, ih]

/-- A name that starts with a letter has the same boundaries after any number of underscores: its first letter
counts either way. -/
theorem wordBoundaries_underscores (alpha : ∀ first ∈ text.head?, isAlpha first) (count : Nat) :
    wordBoundaries (List.replicate count underscore ++ text) = wordBoundariesAfter underscore text := by
  cases count with
  | succ count => exact wordBoundariesAfter_underscores count text
  | zero =>
      cases text with
      | nil => rfl
      -- With nothing in front the first letter counts because it comes first, and after an underscore because of that.
      | cons first rest =>
          have isLetter : isAlpha first := alpha first rfl
          have other : first ≠ underscore := by
            rintro rfl
            exact absurd isLetter (by decide)
          rw [wordBoundariesAfter_cons_of_starts (.inr ⟨rfl, isLetter⟩)]
          exact if_neg (by simpa using other)

/-- Letters of which none starts a word after the one before it have no boundary. -/
theorem wordBoundariesAfter_append (inside : (previous :: text).IsChain fun before letter => ¬ StartsWord before letter)
    (rest : Bytes) :
    wordBoundariesAfter previous (text ++ rest) = wordBoundariesAfter (text.getLastD previous) rest := by
  induction text generalizing previous with
  | nil => rfl
  | cons letter text ih =>
      obtain ⟨here, later⟩ := List.isChain_cons_cons.mp inside
      rw [List.cons_append, wordBoundariesAfter_cons_of_not_starts here, ih later, List.getLastD_cons]

theorem isChain_of_isLower (other : previous ≠ underscore) (low : ∀ letter ∈ text, isLower letter) :
    (previous :: text).IsChain fun before letter => ¬ StartsWord before letter := by
  induction text generalizing previous with
  | nil => exact .singleton previous
  | cons letter text ih =>
      obtain ⟨here, later⟩ := List.forall_mem_cons.mp low
      refine .cons_cons ?_ (ih (ne_underscore_of_isLower here) later)
      rintro (⟨up, _⟩ | ⟨same, _⟩)
      · exact not_isUpper_of_isLower here up
      · exact other same

theorem isChain_of_isUpper (first : isUpper previous) (up : ∀ letter ∈ text, isUpper letter) :
    (previous :: text).IsChain fun before letter => ¬ StartsWord before letter := by
  induction text generalizing previous with
  | nil => exact .singleton previous
  | cons letter text ih =>
      obtain ⟨here, later⟩ := List.forall_mem_cons.mp up
      refine .cons_cons ?_ (ih here later)
      rintro (⟨_, low⟩ | ⟨same, _⟩)
      · exact low first
      · exact ne_underscore_of_isUpper first same

end Boundaries

/-- A word: two or more letters in lower case. -/
structure Word where
  first : UInt8
  rest : Bytes
  isLower : ∀ letter ∈ first :: rest, Letter.isLower letter
  rest_ne_nil : rest ≠ []

namespace Word

variable (word : Word)

def letters : Bytes := word.first :: word.rest

def capitals : Bytes := word.letters.map upper

def capitalized : Bytes := upper word.first :: word.rest

theorem isLower_first : Letter.isLower word.first := word.isLower word.first (by simp)

theorem isLower_rest : ∀ letter ∈ word.rest, Letter.isLower letter :=
  fun letter member => word.isLower letter (by simp [member])

theorem isLower_last (previous : UInt8) : Letter.isLower (word.rest.getLastD previous) := by
  obtain ⟨last, isLast⟩ := Option.isSome_iff_exists.mp (List.getLast?_isSome.mpr word.rest_ne_nil)
  rw [List.getLastD_eq_getLast?, isLast]
  exact word.isLower_rest last (List.mem_of_getLast? isLast)

theorem boundariesAfter_letters (rest : Bytes) :
    wordBoundariesAfter underscore (word.letters ++ rest) =
      word.first :: wordBoundariesAfter (word.rest.getLastD word.first) rest := by
  have low := word.isLower_first
  have starts : StartsWord underscore word.first := .inr ⟨rfl, by simp [isAlpha, low]⟩
  have inside := isChain_of_isLower (ne_underscore_of_isLower low) word.isLower_rest
  rw [letters, List.cons_append, wordBoundariesAfter_cons_of_starts starts, lower_of_isLower low,
    wordBoundariesAfter_append inside]

theorem boundariesAfter_capitals (rest : Bytes) :
    wordBoundariesAfter underscore (word.capitals ++ rest) =
      word.first :: wordBoundariesAfter ((word.rest.map upper).getLastD (upper word.first)) rest := by
  have up := isUpper_upper word.isLower_first
  have starts : StartsWord underscore (upper word.first) := .inr ⟨rfl, by simp [isAlpha, up]⟩
  have inside : (upper word.first :: word.rest.map upper).IsChain _ := isChain_of_isUpper up <| by
    simpa using fun letter member => isUpper_upper (word.isLower_rest letter member)
  rw [capitals, letters, List.map_cons, List.cons_append, wordBoundariesAfter_cons_of_starts starts,
    lower_upper word.isLower_first, wordBoundariesAfter_append inside]

/-- A capital marks a word after an underscore and after a lower-case letter alike, and only once. -/
theorem boundariesAfter_capitalized {previous : UInt8} (low : ¬ isUpper previous) (rest : Bytes) :
    wordBoundariesAfter previous (word.capitalized ++ rest) =
      word.first :: wordBoundariesAfter (word.rest.getLastD (upper word.first)) rest := by
  have up := isUpper_upper word.isLower_first
  have inside := isChain_of_isLower (ne_underscore_of_isUpper up) word.isLower_rest
  rw [capitalized, List.cons_append, wordBoundariesAfter_cons_of_starts (.inl ⟨up, low⟩), lower_upper word.isLower_first,
    wordBoundariesAfter_append inside]

end Word

/-- How a name is written from words. -/
inductive Spelling where
  | underscored
  | underscoredCapitals
  | camelCase
  /-- As above, with the first word in lower case. -/
  | lowerCamelCase
  deriving DecidableEq, Repr

namespace Spelling

def write : Spelling → List Word → Bytes
  | .underscored, words => [underscore].intercalate (words.map Word.letters)
  | .underscoredCapitals, words => [underscore].intercalate (words.map Word.capitals)
  | .camelCase, words => words.flatMap Word.capitalized
  | .lowerCamelCase, [] => []
  | .lowerCamelCase, word :: words => word.letters ++ words.flatMap Word.capitalized

/-- Words with underscores between them, if each has one boundary after an underscore. -/
theorem boundariesAfter_intercalate {written : Word → Bytes}
    (once : ∀ word rest, ∃ last, wordBoundariesAfter underscore (written word ++ rest) =
      word.first :: wordBoundariesAfter last rest) (words : List Word) :
    wordBoundariesAfter underscore ([underscore].intercalate (words.map written)) = words.map Word.first := by
  induction words with
  | nil => rfl
  | cons word words ih =>
      cases words with
      | nil =>
          obtain ⟨last, found⟩ := once word []
          rw [List.append_nil] at found
          rw [List.map_singleton, List.intercalate_singleton, found]
          rfl
      -- The underscore hides which letter the word ended with, so it need not be known.
      | cons next words =>
          obtain ⟨last, found⟩ := once word ([underscore] ++ [underscore].intercalate ((next :: words).map written))
          rw [List.map_cons, List.map_cons, List.intercalate_cons_cons, List.append_assoc, ← List.map_cons, found,
            List.singleton_append, wordBoundariesAfter_underscore, ih]
          rfl

theorem boundariesAfter_flatMap {previous : UInt8} (low : ¬ isUpper previous) (words : List Word) :
    wordBoundariesAfter previous (words.flatMap Word.capitalized) = words.map Word.first := by
  induction words generalizing previous with
  | nil => rfl
  | cons word words ih =>
      rw [List.flatMap_cons, word.boundariesAfter_capitalized low, ih (not_isUpper_of_isLower (word.isLower_last _)),
        List.map_cons]

theorem boundariesAfter_write (spelling : Spelling) (words : List Word) :
    wordBoundariesAfter underscore (spelling.write words) = words.map Word.first := by
  cases spelling with
  | underscored => exact boundariesAfter_intercalate (fun word rest => ⟨_, word.boundariesAfter_letters rest⟩) words
  | underscoredCapitals =>
      exact boundariesAfter_intercalate (fun word rest => ⟨_, word.boundariesAfter_capitals rest⟩) words
  | camelCase => exact boundariesAfter_flatMap (by decide) words
  | lowerCamelCase =>
      cases words with
      | nil => rfl
      | cons word words =>
          rw [write, word.boundariesAfter_letters, boundariesAfter_flatMap (not_isUpper_of_isLower (word.isLower_last _)),
            List.map_cons]

theorem isAlpha_head_write (spelling : Spelling) (words : List Word) :
    ∀ first ∈ (spelling.write words).head?, isAlpha first := by
  cases words with
  | nil => cases spelling <;> simp [write]
  | cons word words =>
      have low : isAlpha word.first := by simp [isAlpha, word.isLower_first]
      have up : isAlpha (upper word.first) := by simp [isAlpha, isUpper_upper word.isLower_first]
      cases spelling with
      | underscored => cases words <;> simpa [write, Word.letters, List.intercalate_cons_cons] using low
      | underscoredCapitals =>
          cases words <;> simpa [write, Word.capitals, Word.letters, List.intercalate_cons_cons] using up
      | camelCase => simpa [write, Word.capitalized] using up
      | lowerCamelCase => simpa [write, Word.letters] using low

/-- The boundaries of a name are the first letters of its words, whichever way it is written and whatever number of
underscores stands before it. -/
theorem wordBoundaries_in_any_spelling (spelling : Spelling) (leading : Nat) (words : List Word) :
    wordBoundaries (List.replicate leading underscore ++ spelling.write words) = words.map Word.first := by
  rw [wordBoundaries_underscores (isAlpha_head_write spelling words), boundariesAfter_write]

end Spelling

end Typeahead

import Mathlib.Algebra.Order.Field.Rat
import Mathlib.Data.Prod.Lex
import Typeahead.Proofs.CommonLength
import Typeahead.Proofs.Selection

namespace Typeahead

/-! The order of matches. A match has a key of ten criteria, compared one after another, and where two matches
are decided at all they are in the order of their keys. They are left undecided exactly when one of the texts has
no character that starts a word and nothing before the use of such characters tells the matches apart: a share of
nothing compares with none. -/

open Letter

theorem Letter.toNat_swapCase (letter : UInt8) :
    (swapCase letter).toNat =
      if isUpper letter then letter.toNat + 32
      else if isLower letter then letter.toNat - 32 else letter.toNat := by
  unfold swapCase upper
  split
  · rename_i isUpper
    have bounds := isUpper_iff.mp isUpper
    rw [UInt8.toNat_add]
    simp only [UInt8.reduceToNat]
    omega
  · split
    · rename_i isLower
      have bounds := isLower_iff.mp isLower
      have enough : (32 : UInt8) ≤ letter := UInt8.le_iff_toNat_le.mpr (by simp only [UInt8.reduceToNat]; omega)
      rw [UInt8.toNat_sub_of_le _ _ enough]
      rfl
    · rfl

theorem Letter.swapCase_injective : Function.Injective swapCase := by
  intro left right same
  have numbers := congrArg UInt8.toNat same
  rw [toNat_swapCase, toNat_swapCase] at numbers
  simp only [isUpper_iff, isLower_iff] at numbers
  apply UInt8.toNat_inj.mp
  split at numbers <;> split at numbers <;> (try split at numbers) <;> (try split at numbers) <;> omega

theorem Letter.signed_injective : Function.Injective signed := by
  intro left right same
  have leftBound := left.toNat_lt
  have rightBound := right.toNat_lt
  simp only [signed, UInt8.lt_iff_toNat_lt, UInt8.reduceToNat] at same
  apply UInt8.toNat_inj.mp
  split at same <;> split at same <;> omega

namespace Share

/-- The size of a share; a share of nothing counts as none at all. -/
def size (share : Share) : ℚ := share.hits / share.total

variable {left right : Share}

theorem equals_iff (leftTotal : left.total ≠ 0) (rightTotal : right.total ≠ 0) :
    left.equals right ↔ left.size = right.size := by
  rw [size, size, div_eq_div_iff (by exact_mod_cast leftTotal) (by exact_mod_cast rightTotal)]
  simp only [equals, bne_iff_ne, ne_eq, leftTotal, rightTotal, not_false_eq_true, Bool.and_eq_true, true_and,
    beq_iff_eq]
  exact_mod_cast Iff.rfl

theorem exceeds_iff (leftTotal : left.total ≠ 0) (rightTotal : right.total ≠ 0) :
    left.exceeds right ↔ right.size < left.size := by
  have leftPositive : (0 : ℚ) < left.total := by exact_mod_cast Nat.pos_of_ne_zero leftTotal
  have rightPositive : (0 : ℚ) < right.total := by exact_mod_cast Nat.pos_of_ne_zero rightTotal
  rw [size, size, div_lt_div_iff₀ rightPositive leftPositive]
  simp only [exceeds, bne_iff_ne, ne_eq, leftTotal, rightTotal, not_false_eq_true, Bool.and_eq_true, true_and,
    decide_eq_true_eq]
  exact_mod_cast Iff.rfl

theorem isWhole_iff (total : left.total ≠ 0) : left.isWhole ↔ left.size = 1 := by
  rw [size, div_eq_one_iff_eq (by exact_mod_cast total)]
  simp only [isWhole, bne_iff_ne, ne_eq, total, not_false_eq_true, Bool.and_eq_true, true_and, beq_iff_eq]
  exact_mod_cast Iff.rfl

theorem size_le_one (total : left.total ≠ 0) (atMost : left.hits ≤ left.total) : left.size ≤ 1 := by
  rw [size, div_le_one₀ (by exact_mod_cast Nat.pos_of_ne_zero total)]
  exact_mod_cast atMost

end Share

section Cascade

variable {κ ν : Type} [LinearOrder κ] [LinearOrder ν] {differ here rest : Bool}

/-- One criterion of a comparison, and what decides where it does not. -/
theorem cascade_iff {left right : κ} {leftRest rightRest : ν} (differ_iff : differ ↔ left ≠ right)
    (here_iff : left ≠ right → (here ↔ left < right)) (rest_iff : left = right → (rest ↔ leftRest < rightRest)) :
    (if differ then here else rest) = true ↔ toLex (left, leftRest) < toLex (right, rightRest) := by
  rw [Prod.Lex.toLex_lt_toLex]
  by_cases same : left = right
  · have undecided : differ = false := by simpa [same] using differ_iff
    simp [undecided, same, rest_iff same]
  · have decided : differ = true := differ_iff.mpr same
    simp [decided, same, here_iff same]

/-- A criterion that one of two matches meets and the other does not. -/
theorem cascade_bool_iff {left right : Bool} {leftRest rightRest : ν}
    (rest_iff : left = right → (rest ↔ leftRest < rightRest)) :
    (if left != right then left else rest) = true ↔ toLex (!left, leftRest) < toLex (!right, rightRest) := by
  apply cascade_iff
  · simp
  · cases left <;> cases right <;> simp
  · intro same
    exact rest_iff (by simpa using same)

/-- A criterion by a number, the smaller first. -/
theorem cascade_nat_iff {left right : Nat} {leftRest rightRest : ν}
    (rest_iff : left = right → (rest ↔ leftRest < rightRest)) :
    (if left != right then decide (left < right) else rest) = true ↔
      toLex (left, leftRest) < toLex (right, rightRest) := by
  apply cascade_iff
  · simp
  · simp
  · exact rest_iff

end Cascade

namespace Match

/-- The place of a letter in dictionary order. -/
def letterKey (letter : UInt8) : ℤ := signed (swapCase letter)

theorem letterKey_injective : Function.Injective letterKey := signed_injective.comp swapCase_injective

theorem textBefore_iff (left right : Bytes) :
    textBefore left right ↔ left.map letterKey < right.map letterKey := by
  induction left generalizing right with
  | nil => cases right <;> simp [textBefore]
  | cons letter left ih =>
      cases right with
      | nil => simp [textBefore]
      | cons other right =>
          have rest := ih right
          rcases lt_trichotomy (letterKey letter) (letterKey other) with below | same | above
          · have notAbove := below.not_gt
            simp only [letterKey] at below notAbove
            simp [textBefore, List.cons_lt_cons_iff, letterKey, below]
          · have notBelow := same.not_lt
            have notAbove := same.not_gt
            simp only [letterKey] at same notBelow notAbove
            simp [textBefore, letterKey, same, rest]
          · have notBelow := above.not_gt
            have different := above.ne'
            simp only [letterKey] at above notBelow different
            simp [textBefore, List.cons_lt_cons_iff, letterKey, above, notBelow, different]

/-- The criteria by which matches are listed, the best first, each deciding where those before it do not. -/
abbrev Key := Bool ×ₗ Bool ×ₗ ℚ ×ₗ Bool ×ₗ ℚ ×ₗ ℚ ×ₗ ℕ ×ₗ ℕ ×ₗ Bool ×ₗ List ℤ

def key (found : Match) : Key :=
  toLex (!found.sameFirst, toLex (!found.ofQuery.isWhole,
    toLex (if found.ofQuery.isWhole then -found.ofBoundaries.size else 0,
    toLex (!found.textStartsWithQuery, toLex (-found.ofQuery.size, toLex (-found.ofBoundaries.size,
    toLex (found.indexSum, toLex (found.text.length, toLex (!found.isLower, found.text.map letterKey)))))))))

theorem text_eq_of_key_eq {left right : Match} (same : left.key = right.key) : left.text = right.text := by
  simp only [key, EmbeddingLike.apply_eq_iff_eq, Prod.mk.injEq] at same
  obtain ⟨_, _, _, _, _, _, _, _, _, letters⟩ := same
  exact List.map_injective_iff.mpr letterKey_injective letters

/-- What all matches of a query of one length have in common. -/
structure OfLength (length : Nat) (found : Match) : Prop where
  queryIsEmpty : found.queryIsEmpty = false
  total : found.ofQuery.total = length
  atMost : found.ofQuery.hits ≤ length
  sameHits : found.ofBoundaries.hits = found.ofQuery.hits
  noneOfNothing : found.ofBoundaries.total = 0 → found.ofQuery.hits = 0

/-- Matches that no criterion tells apart up to the use of characters that start words, of which one has none. -/
def Undecided (left right : Match) : Prop :=
  (left.ofBoundaries.total = 0 ∨ right.ofBoundaries.total = 0) ∧ left.sameFirst = right.sameFirst ∧
    left.textStartsWithQuery = right.textStartsWithQuery ∧ left.ofQuery.hits = right.ofQuery.hits

theorem Undecided.symm {left right : Match} (undecided : Undecided left right) : Undecided right left :=
  ⟨undecided.1.symm, undecided.2.1.symm, undecided.2.2.1.symm, undecided.2.2.2.symm⟩

section Order

variable {length : Nat} {left right : Match}

theorem OfLength.not_isWhole (nonempty : length ≠ 0) (ofLength : OfLength length left)
    (nothing : left.ofBoundaries.total = 0) : left.ofQuery.isWhole = false := by
  have noHits := ofLength.noneOfNothing nothing
  simp [Share.isWhole, ofLength.total, noHits, Ne.symm nonempty]

theorem OfLength.size_eq_iff (nonempty : length ≠ 0) (ofLeft : OfLength length left)
    (ofRight : OfLength length right) :
    left.ofQuery.size = right.ofQuery.size ↔ left.ofQuery.hits = right.ofQuery.hits := by
  rw [Share.size, Share.size, ofLeft.total, ofRight.total, div_left_inj' (by exact_mod_cast nonempty)]
  exact_mod_cast Iff.rfl

/-- Undecided matches are listed as they come: neither is before the other. -/
theorem not_before_of_undecided (nonempty : length ≠ 0) (ofLeft : OfLength length left)
    (ofRight : OfLength length right) (undecided : Undecided left right) : left.before right = false := by
  obtain ⟨nothing, sameFirst, sameStart, sameHits⟩ := undecided
  have noHits : left.ofQuery.hits = 0 := by
    rcases nothing with nothing | nothing
    · exact ofLeft.noneOfNothing nothing
    · exact sameHits.trans (ofRight.noneOfNothing nothing)
  have leftPart : left.ofQuery.isWhole = false := by
    simp [Share.isWhole, ofLeft.total, noHits, Ne.symm nonempty]
  have rightPart : right.ofQuery.isWhole = false := by
    simp [Share.isWhole, ofRight.total, ← sameHits, noHits, Ne.symm nonempty]
  have sameOfQuery : left.ofQuery.equals right.ofQuery = true := by
    simp [Share.equals, ofLeft.total, ofRight.total, sameHits, nonempty]
  have notComparable : left.ofBoundaries.equals right.ofBoundaries = false ∧
      left.ofBoundaries.exceeds right.ofBoundaries = false := by
    rcases nothing with nothing | nothing <;> simp [Share.equals, Share.exceeds, nothing]
  simp [before, ofLeft.queryIsEmpty, sameFirst, sameStart, leftPart, rightPart, sameOfQuery, notComparable]

/-- Matches that are decided are in the order of their keys. -/
theorem before_iff_key_lt (nonempty : length ≠ 0) (ofLeft : OfLength length left) (ofRight : OfLength length right)
    (decided : ¬ Undecided left right) : left.before right ↔ left.key < right.key := by
  have leftTotal : left.ofQuery.total ≠ 0 := ofLeft.total ▸ nonempty
  have rightTotal : right.ofQuery.total ≠ 0 := ofRight.total ▸ nonempty
  have leftMost := Share.size_le_one leftTotal (ofLeft.total.symm ▸ ofLeft.atMost)
  have rightMost := Share.size_le_one rightTotal (ofRight.total.symm ▸ ofRight.atMost)
  have sameOfQuery := Share.equals_iff leftTotal rightTotal
  have moreOfQuery := Share.exceeds_iff leftTotal rightTotal
  have leftWhole := Share.isWhole_iff leftTotal
  have rightWhole := Share.isWhole_iff rightTotal
  simp only [before, ofLeft.queryIsEmpty, Bool.false_eq_true, if_false, key]
  refine cascade_bool_iff fun sameFirst => ?_
  refine cascade_iff ?_ ?_ fun sameWhole => ?_
  · grind
  · intro different
    rw [moreOfQuery]
    cases leftCase : left.ofQuery.isWhole <;> cases rightCase : right.ofQuery.isWhole
    · simp [leftCase, rightCase] at different
    · rw [rightWhole.mp rightCase]
      exact iff_of_false leftMost.not_gt (by decide)
    · have less : right.ofQuery.size ≠ 1 := fun whole => by simp [rightWhole.mpr whole] at rightCase
      rw [leftWhole.mp leftCase]
      exact iff_of_true (lt_of_le_of_ne rightMost less) (by decide)
    · simp [leftCase, rightCase] at different
  have bothWhole : left.ofQuery.isWhole = right.ofQuery.isWhole := by simpa using sameWhole
  have wholeUse (whole : right.ofQuery.isWhole = true) :
      left.ofBoundaries.total ≠ 0 ∧ right.ofBoundaries.total ≠ 0 :=
    ⟨fun nothing => by simp [← bothWhole, ofLeft.not_isWhole nonempty nothing] at whole,
      fun nothing => by simp [ofRight.not_isWhole nonempty nothing] at whole⟩
  refine cascade_iff ?_ ?_ fun _ => ?_
  · rw [bothWhole]
    cases whole : right.ofQuery.isWhole with
    | false => simp
    | true =>
        obtain ⟨leftUse, rightUse⟩ := wholeUse whole
        simp [← Share.equals_iff leftUse rightUse]
  · rw [bothWhole]
    cases whole : right.ofQuery.isWhole with
    | false => simp
    | true =>
        obtain ⟨leftUse, rightUse⟩ := wholeUse whole
        simp [Share.exceeds_iff leftUse rightUse]
  refine cascade_bool_iff fun sameStart => ?_
  refine cascade_iff ?_ ?_ fun samePart => ?_
  · simp [← sameOfQuery]
  · simp [moreOfQuery]
  -- Only here may a share of nothing be left to compare, and then the matches are undecided.
  have someUse : left.ofBoundaries.total ≠ 0 ∧ right.ofBoundaries.total ≠ 0 := by
    by_contra nothing
    have sameHits := (ofLeft.size_eq_iff nonempty ofRight).mp (neg_inj.mp samePart)
    exact decided ⟨by omega, sameFirst, sameStart, sameHits⟩
  refine cascade_iff ?_ ?_ fun _ => ?_
  · simp [← Share.equals_iff someUse.1 someUse.2]
  · simp [Share.exceeds_iff someUse.1 someUse.2]
  exact cascade_nat_iff fun _ => cascade_nat_iff fun _ => cascade_bool_iff fun _ => textBefore_iff _ _

end Order

section Results

variable {query boundaries : Bytes} {candidate : Candidate} {caseSensitive : Bool} {found left right : Match}

/-- Both shares of a match count the same characters, those that the query has in common with the ones that start
words. -/
structure Shares (query boundaries : Bytes) (found : Match) : Prop where
  ofQuery : found.ofQuery = ⟨commonLength query boundaries, query.length⟩
  ofBoundaries : found.ofBoundaries = ⟨commonLength query boundaries, boundaries.length⟩

theorem Shares.ofLength (shares : Shares query boundaries found) (queryIsEmpty : found.queryIsEmpty = false) :
    OfLength query.length found where
  queryIsEmpty := queryIsEmpty
  total := by rw [shares.ofQuery]
  atMost := by
    rw [shares.ofQuery]
    exact (commonLength_le query boundaries).1
  sameHits := by rw [shares.ofQuery, shares.ofBoundaries]
  noneOfNothing := by
    rw [shares.ofQuery, shares.ofBoundaries]
    intro nothing
    exact Nat.eq_zero_of_le_zero (nothing ▸ (commonLength_le query boundaries).2)

theorem shares_of_ofQuery? (matched : ofQuery? candidate query caseSensitive = some found) (someQuery : query ≠ [])
    (someText : candidate.text ≠ []) :
    found.text = candidate.text ∧ found.queryIsEmpty = false ∧ Shares query candidate.boundaries found := by
  obtain ⟨letter, query, rfl⟩ := List.exists_cons_of_ne_nil someQuery
  obtain ⟨first, rest, isText⟩ := List.exists_cons_of_ne_nil someText
  obtain ⟨indexSum, _, rfl⟩ := Option.map_eq_some_iff.mp matched
  rw [isText]
  exact ⟨rfl, rfl, rfl, rfl⟩

theorem text_ne_nil_of_boundaries {text : Bytes} (made : Candidate.ofText text = .ok candidate)
    (someBoundary : wordBoundaries text ≠ []) : candidate.text ≠ [] := by
  rw [(Candidate.ofText_eq_ok_iff.mp made).2.1]
  rintro rfl
  exact someBoundary rfl

/-- The matches of a query with texts that have a character which starts a word. -/
def OfWords (query : Bytes) (found : Match) : Prop :=
  ∃ text candidate caseSensitive, Candidate.ofText text = .ok candidate ∧ wordBoundaries text ≠ [] ∧
    ofQuery? candidate query caseSensitive = some found

theorem OfWords.compared (ofWords : OfWords query found) (nonempty : query ≠ []) :
    OfLength query.length found ∧ found.ofBoundaries.total ≠ 0 := by
  obtain ⟨text, candidate, caseSensitive, made, someBoundary, matched⟩ := ofWords
  obtain ⟨_, _, boundaries, _, _⟩ := Candidate.ofText_eq_ok_iff.mp made
  obtain ⟨_, queryIsEmpty, shares⟩ := shares_of_ofQuery? matched nonempty (text_ne_nil_of_boundaries made someBoundary)
  refine ⟨shares.ofLength queryIsEmpty, ?_⟩
  rw [shares.ofBoundaries, boundaries]
  simpa using someBoundary

theorem exists_ofWords {text : Bytes} (nonempty : query ≠ []) (ascii : ∀ letter ∈ text, isAscii letter)
    (someBoundary : wordBoundaries text ≠ []) (embeds : List.SublistForall₂ (Accepts caseSensitive) query text) :
    ∃ found, OfWords query found ∧ found.text = text := by
  obtain ⟨candidate, made⟩ := Candidate.ofText_exists ascii
  obtain ⟨found, matched⟩ := Option.isSome_iff_exists.mp ((ofQuery?_isSome_iff made).mpr embeds)
  have ofWords : OfWords query found := ⟨text, candidate, caseSensitive, made, someBoundary, matched⟩
  have someText := text_ne_nil_of_boundaries made someBoundary
  have isText := (Candidate.ofText_eq_ok_iff.mp made).2.1
  exact ⟨found, ofWords, (shares_of_ofQuery? matched nonempty someText).1.trans isText⟩

theorem OfWords.before_iff (ofLeft : OfWords query left) (ofRight : OfWords query right) (nonempty : query ≠ []) :
    left.before right ↔ left.key < right.key := by
  obtain ⟨leftLength, leftTotal⟩ := ofLeft.compared nonempty
  obtain ⟨rightLength, rightTotal⟩ := ofRight.compared nonempty
  apply before_iff_key_lt (by simpa using nonempty) leftLength rightLength
  rintro ⟨nothing | nothing, _⟩
  · exact leftTotal nothing
  · exact rightTotal nothing

/-- Where every text has a character that starts a word, matches are in a strict total order: no match is before
itself, the order is transitive, and of two matches with different texts exactly one is before the other. -/
theorem before_strict_total (query : Bytes) (nonempty : query ≠ []) :
    (∀ found, OfWords query found → found.before found = false) ∧
    (∀ first second third, OfWords query first → OfWords query second → OfWords query third →
      first.before second → second.before third → first.before third) ∧
    ∀ left right, OfWords query left → OfWords query right → left.text ≠ right.text →
      Xor (left.before right = true) (right.before left = true) := by
  refine ⟨?_, ?_, ?_⟩
  · intro found ofFound
    rw [Bool.eq_false_iff, ne_eq, ofFound.before_iff ofFound nonempty]
    exact lt_irrefl found.key
  · intro first second third ofFirst ofSecond ofThird firstBefore secondBefore
    rw [ofFirst.before_iff ofSecond nonempty] at firstBefore
    rw [ofSecond.before_iff ofThird nonempty] at secondBefore
    rw [ofFirst.before_iff ofThird nonempty]
    exact firstBefore.trans secondBefore
  · intro left right ofLeft ofRight different
    rw [ofLeft.before_iff ofRight nonempty, ofRight.before_iff ofLeft nonempty]
    have keysDiffer : left.key ≠ right.key := fun same => different (text_eq_of_key_eq same)
    rcases lt_or_gt_of_ne keysDiffer with below | above
    · exact Or.inl ⟨below, below.not_gt⟩
    · exact Or.inr ⟨above, above.not_gt⟩

end Results

theorem before_strict_total_camel :
    let query := Bytes.ofString "fb"
    query ≠ [] ∧ ∃ camel snake, OfWords query camel ∧ camel.text = Bytes.ofString "fooBar" ∧
      OfWords query snake ∧ snake.text = Bytes.ofString "foo_bar" ∧ camel.before camel = false ∧
      Xor (camel.before snake = true) (snake.before camel = true) := by
  intro query
  have nonempty : query ≠ [] := by decide +kernel
  have camelEmbeds : List.SublistForall₂ (Accepts false) query (Bytes.ofString "fooBar") := by decide +kernel
  have snakeEmbeds : List.SublistForall₂ (Accepts false) query (Bytes.ofString "foo_bar") := by decide +kernel
  obtain ⟨camel, ofCamel, camelText⟩ := exists_ofWords nonempty (by decide +kernel) (by decide +kernel) camelEmbeds
  obtain ⟨snake, ofSnake, snakeText⟩ := exists_ofWords nonempty (by decide +kernel) (by decide +kernel) snakeEmbeds
  have different : camel.text ≠ snake.text := by
    rw [camelText, snakeText]
    decide +kernel
  obtain ⟨irreflexive, _, total⟩ := before_strict_total query nonempty
  exact ⟨nonempty, camel, snake, ofCamel, camelText, ofSnake, snakeText, irreflexive camel ofCamel,
    total camel snake ofCamel ofSnake different⟩

end Match

end Typeahead

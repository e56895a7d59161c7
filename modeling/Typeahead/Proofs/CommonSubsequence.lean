import Mathlib.Tactic.Positivity
import Typeahead.Proofs.MatchOrder

namespace Typeahead

/-! Common subsequences. A part of one text and a part of another are common if they agree letter by letter, case
aside. The length that the table of lengths ends with is that of some common part, and none is longer. -/

open Letter

/-- A part of each of two texts, both the same but for case. -/
structure Common (first second left right : Bytes) : Prop where
  inFirst : left.Sublist first
  inSecond : right.Sublist second
  alike : left.map upper = right.map upper

namespace Common

variable {first second left right : Bytes} {letter other : UInt8}

theorem nil (first second : Bytes) : Common first second [] [] :=
  ⟨List.nil_sublist first, List.nil_sublist second, rfl⟩

theorem cons (common : Common first second left right) (same : upper letter = upper other) :
    Common (letter :: first) (other :: second) (letter :: left) (other :: right) where
  inFirst := common.inFirst.cons_cons letter
  inSecond := common.inSecond.cons_cons other
  alike := by rw [List.map_cons, List.map_cons, same, common.alike]

theorem skipFirst (common : Common first second left right) : Common (letter :: first) second left right :=
  ⟨common.inFirst.cons letter, common.inSecond, common.alike⟩

theorem skipSecond (common : Common first second left right) : Common first (other :: second) left right :=
  ⟨common.inFirst, common.inSecond.cons other, common.alike⟩

theorem symm (common : Common first second left right) : Common second first right left :=
  ⟨common.inSecond, common.inFirst, common.alike.symm⟩

theorem reverse (common : Common first second left right) :
    Common first.reverse second.reverse left.reverse right.reverse where
  inFirst := common.inFirst.reverse
  inSecond := common.inSecond.reverse
  alike := by rw [List.map_reverse, List.map_reverse, common.alike]

theorem length_eq (common : Common first second left right) : left.length = right.length := by
  have lengths := congrArg List.length common.alike
  simpa using lengths

/-- Without their first letters, common parts of two texts are in what follows the first letters of these. -/
theorem tail (common : Common (letter :: first) (other :: second) left right) :
    Common first second left.tail right.tail where
  inFirst := common.inFirst.tail
  inSecond := common.inSecond.tail
  alike := by rw [List.map_tail, List.map_tail, common.alike]

/-- Where the first letters of two texts differ, common parts do without one of them. -/
theorem of_different (common : Common (letter :: first) (other :: second) left right)
    (different : upper letter ≠ upper other) :
    Common (letter :: first) second left right ∨ Common first (other :: second) left right := by
  rcases List.sublist_cons_iff.mp common.inFirst with skipped | ⟨leftRest, rfl, _⟩
  · exact Or.inr ⟨skipped, common.inSecond, common.alike⟩
  · rcases List.sublist_cons_iff.mp common.inSecond with skipped | ⟨rightRest, rfl, _⟩
    · exact Or.inl ⟨common.inFirst, skipped, common.alike⟩
    · have heads := (List.cons.inj common.alike).1
      exact absurd heads different

/-- No common part is longer than the recursion on both texts says. -/
theorem length_le_longest (common : Common first second left right) : left.length ≤ longest first second := by
  fun_induction longest first second generalizing left right with
  | case1 second => simpa using common.inFirst.length_le
  | case2 letter first =>
      rw [common.length_eq]
      simpa using common.inSecond.length_le
  | case3 letter first other second same ih =>
      have rest := ih common.tail
      rw [List.length_tail] at rest
      omega
  | case4 letter first other second different withoutOther withoutLetter =>
      rcases common.of_different different with common | common
      · exact le_max_of_le_left (withoutOther common)
      · exact le_max_of_le_right (withoutLetter common)

end Common

theorem exists_common_longest (first second : Bytes) :
    ∃ left right, Common first second left right ∧ left.length = longest first second := by
  fun_induction longest first second with
  | case1 second => exact ⟨[], [], Common.nil [] second, rfl⟩
  | case2 letter first => exact ⟨[], [], Common.nil (letter :: first) [], rfl⟩
  | case3 letter first other second same ih =>
      obtain ⟨left, right, common, length⟩ := ih
      exact ⟨letter :: left, other :: right, common.cons same, by rw [List.length_cons, length]⟩
  | case4 letter first other second different withoutOther withoutLetter =>
      rcases le_total (longest first (other :: second)) (longest (letter :: first) second) with less | more
      · obtain ⟨left, right, common, length⟩ := withoutOther
        exact ⟨left, right, common.skipSecond, by rw [length, max_eq_left less]⟩
      · obtain ⟨left, right, common, length⟩ := withoutLetter
        exact ⟨left, right, common.skipFirst, by rw [length, max_eq_right more]⟩

/-- The lengths of all common parts of two texts. -/
def commonLengths (first second : Bytes) : Set Nat :=
  {length | ∃ left right, Common first second left right ∧ left.length = length}

theorem isGreatest_longest (first second : Bytes) : IsGreatest (commonLengths first second) (longest first second) := by
  refine ⟨exists_common_longest first second, ?_⟩
  rintro _ ⟨left, right, common, rfl⟩
  exact common.length_le_longest

theorem commonLengths_reverse (first second : Bytes) :
    commonLengths first.reverse second.reverse = commonLengths first second := by
  ext length
  constructor
  · rintro ⟨left, right, common, rfl⟩
    have forwards := common.reverse
    rw [List.reverse_reverse, List.reverse_reverse] at forwards
    exact ⟨left.reverse, right.reverse, forwards, List.length_reverse⟩
  · rintro ⟨left, right, common, rfl⟩
    exact ⟨left.reverse, right.reverse, common.reverse, List.length_reverse⟩

theorem commonLengths_comm (first second : Bytes) : commonLengths first second = commonLengths second first := by
  ext length
  constructor
  · rintro ⟨left, right, common, rfl⟩
    exact ⟨right, left, common.symm, common.length_eq.symm⟩
  · rintro ⟨left, right, common, rfl⟩
    exact ⟨right, left, common.symm, common.length_eq.symm⟩

theorem isGreatest_commonLength (first second : Bytes) :
    IsGreatest (commonLengths first second) (commonLength first second) := by
  rw [commonLength_eq]
  split
  · rw [← commonLengths_reverse]
    exact isGreatest_longest first.reverse second.reverse
  · rw [commonLengths_comm, ← commonLengths_reverse]
    exact isGreatest_longest second.reverse first.reverse

theorem commonLength_comm (first second : Bytes) : commonLength first second = commonLength second first := by
  have oneWay := isGreatest_commonLength first second
  rw [commonLengths_comm] at oneWay
  exact oneWay.unique (isGreatest_commonLength second first)

theorem Share.size_mem_Icc {share : Share} (total : share.total ≠ 0) (atMost : share.hits ≤ share.total) :
    share.size ∈ Set.Icc 0 1 := by
  refine ⟨?_, size_le_one total atMost⟩
  unfold size
  positivity

namespace Match

variable {query : Bytes} {candidate : Candidate} {caseSensitive : Bool} {found : Match}

theorem shares_of_empty (matched : ofQuery? candidate query caseSensitive = some found)
    (empty : query = [] ∨ candidate.text = []) : found.ofQuery = .zero ∧ found.ofBoundaries = .zero := by
  obtain ⟨indexSum, _, rfl⟩ := Option.map_eq_some_iff.mp matched
  rcases empty with rfl | isText
  · exact ⟨rfl, rfl⟩
  · rw [isText]
    cases query <;> exact ⟨rfl, rfl⟩

/-- The shares of a match are between nothing and all, where there is something to have a share of. -/
theorem sizes_mem_Icc (matched : ofQuery? candidate query caseSensitive = some found) :
    (found.ofQuery.total ≠ 0 ∧ found.ofQuery.size ∈ Set.Icc 0 1) ∧
      (candidate.boundaries ≠ [] → found.ofBoundaries.total ≠ 0 ∧ found.ofBoundaries.size ∈ Set.Icc 0 1) := by
  by_cases empty : query = [] ∨ candidate.text = []
  · obtain ⟨ofQuery, ofBoundaries⟩ := shares_of_empty matched empty
    rw [ofQuery, ofBoundaries]
    have ofNothing : Share.zero.total ≠ 0 ∧ Share.zero.size ∈ Set.Icc 0 1 :=
      ⟨by decide, Share.size_mem_Icc (by decide) (by decide)⟩
    exact ⟨ofNothing, fun _ => ofNothing⟩
  · push Not at empty
    obtain ⟨_, _, shares⟩ := shares_of_ofQuery? matched empty.1 empty.2
    obtain ⟨inQuery, inBoundaries⟩ := commonLength_le query candidate.boundaries
    rw [shares.ofQuery, shares.ofBoundaries]
    constructor
    · have total : query.length ≠ 0 := by simpa using empty.1
      exact ⟨total, Share.size_mem_Icc total inQuery⟩
    · intro someBoundary
      have total : candidate.boundaries.length ≠ 0 := by simpa using someBoundary
      exact ⟨total, Share.size_mem_Icc total inBoundaries⟩

end Match

/-- The table of lengths ends with the length of a longest common subsequence, in whichever order the texts are given:
some common subsequence has this length and none is longer. It is at most the shorter length, so the shares of a match
lie between nothing and all, the second one unless no character of the text starts a word. -/
theorem commonLength_longest_common (first second : Bytes) :
    IsGreatest (commonLengths first second) (commonLength first second) ∧
    commonLength first second = commonLength second first ∧
    commonLength first second ≤ min first.length second.length ∧
    ∀ (candidate : Candidate) (query : Bytes) (caseSensitive : Bool) (found : Match),
      Match.ofQuery? candidate query caseSensitive = some found →
        (query ≠ [] → candidate.text ≠ [] → Match.Shares query candidate.boundaries found) ∧
        (found.ofQuery.total ≠ 0 ∧ found.ofQuery.size ∈ Set.Icc 0 1) ∧
        (candidate.boundaries ≠ [] → found.ofBoundaries.total ≠ 0 ∧ found.ofBoundaries.size ∈ Set.Icc 0 1) := by
  obtain ⟨inFirst, inSecond⟩ := commonLength_le first second
  refine ⟨isGreatest_commonLength first second, commonLength_comm first second, le_min inFirst inSecond, ?_⟩
  intro candidate query caseSensitive found matched
  refine ⟨fun someQuery someText => ?_, Match.sizes_mem_Icc matched⟩
  exact (Match.shares_of_ofQuery? matched someQuery someText).2.2

theorem commonLength_longest_common_camel :
    let query := Bytes.ofString "oB"
    let boundaries := Bytes.ofString "fb"
    IsGreatest (commonLengths query boundaries) 1 ∧
      ∃ candidate found, candidate.boundaries = boundaries ∧ Match.ofQuery? candidate query true = some found ∧
        found.ofQuery.size ∈ Set.Icc 0 1 ∧ found.ofBoundaries.size ∈ Set.Icc 0 1 := by
  intro query boundaries
  obtain ⟨greatest, _, _, within⟩ := commonLength_longest_common query boundaries
  have one : commonLength query boundaries = 1 := by decide +kernel
  rw [one] at greatest
  have embeds : List.SublistForall₂ (Accepts true) query (Bytes.ofString "fooBar") := by decide +kernel
  have ascii : ∀ letter ∈ Bytes.ofString "fooBar", isAscii letter := by decide +kernel
  obtain ⟨candidate, made⟩ := Candidate.ofText_exists ascii
  obtain ⟨found, matched⟩ := Option.isSome_iff_exists.mp ((Match.ofQuery?_isSome_iff made).mpr embeds)
  have ofText : candidate.boundaries = boundaries := by
    rw [(Candidate.ofText_eq_ok_iff.mp made).2.2.1]
    decide +kernel
  have someBoundary : candidate.boundaries ≠ [] := by
    rw [ofText]
    decide +kernel
  obtain ⟨_, ofQuery, ofBoundaries⟩ := within candidate query true found matched
  exact ⟨greatest, candidate, found, ofText, matched, ofQuery.2, (ofBoundaries someBoundary).2⟩

end Typeahead

import Typeahead.Proofs.IdentifierMap
import Typeahead.Proofs.MatchOrder

namespace Typeahead

/-! When a ranking depends on the order in which its items arrive. Texts of which one has no character that starts
a word may tie although they differ, and are then listed as they come. Where no two texts tie, the ranking is the
same for every order of arrival, and it is only there. -/

open Letter

namespace Ranking

/-- Whether a text starts with the first letter of the query, case aside. -/
def startsAlike (query text : Bytes) : Bool := query.head?.map upper == text.head?.map upper

/-- Texts that a query keeps and does not tell apart: one of them has no character that starts a word, neither has
such a character in common with the query, and both start like it or not. -/
def Ties (query left right : Bytes) : Prop :=
  Keeps query left ∧ Keeps query right ∧ (wordBoundaries left = [] ∨ wordBoundaries right = []) ∧
    commonLength query (wordBoundaries left) = 0 ∧ commonLength query (wordBoundaries right) = 0 ∧
    startsAlike query left = startsAlike query right ∧ startsWithAnyCase left query = startsWithAnyCase right query

instance (query left right : Bytes) : Decidable (Ties query left right) :=
  inferInstanceAs (Decidable (Keeps query left ∧ Keeps query right ∧
    (wordBoundaries left = [] ∨ wordBoundaries right = []) ∧
    commonLength query (wordBoundaries left) = 0 ∧ commonLength query (wordBoundaries right) = 0 ∧
    startsAlike query left = startsAlike query right ∧ startsWithAnyCase left query = startsWithAnyCase right query))

theorem Ties.symm {query left right : Bytes} (ties : Ties query left right) : Ties query right left := by
  obtain ⟨keepsLeft, keepsRight, nothing, leftHits, rightHits, alike, start⟩ := ties
  exact ⟨keepsRight, keepsLeft, nothing.symm, rightHits, leftHits, alike.symm, start.symm⟩

/-- Texts of which no two different ones tie. -/
def TieFree (query : Bytes) (texts : List Bytes) : Prop :=
  ∀ left ∈ texts, ∀ right ∈ texts, left ≠ right → ¬ Ties query left right

instance (query : Bytes) (texts : List Bytes) : Decidable (TieFree query texts) :=
  inferInstanceAs (Decidable (∀ left ∈ texts, ∀ right ∈ texts, left ≠ right → ¬ Ties query left right))

section Match

variable {query text left right : Bytes} {found leftFound rightFound : Match}

/-- What a match tells of a query and a text. -/
structure Describes (query text : Bytes) (found : Match) : Prop where
  keeps : Keeps query text
  ownText : found.text = text
  queryIsEmpty : found.queryIsEmpty = false
  sameFirst : found.sameFirst = startsAlike query text
  ofQuery : found.ofQuery = ⟨commonLength query (wordBoundaries text), query.length⟩
  ofBoundaries : found.ofBoundaries = ⟨commonLength query (wordBoundaries text), (wordBoundaries text).length⟩
  textStartsWithQuery : found.textStartsWithQuery = startsWithAnyCase text query

theorem describes_of_matchOf? (nonempty : query ≠ []) (ascii : ∀ letter ∈ query, isAscii letter)
    (matched : matchOf? query text = some found) : Describes query text found := by
  have keeps : Keeps query text := (matchOf?_isSome_iff nonempty ascii text).mp (by simp [matched])
  obtain ⟨letters, ofQuery, _⟩ := LetterSet.ofText_exists ascii
  obtain ⟨candidate, made⟩ := Candidate.ofText_shown_exists text
  simp only [matchOf?, ofQuery, made, match?] at matched
  split at matched
  · rw [Candidate.shown_eq keeps.1] at made
    obtain ⟨_, ownText, boundaries, _, _⟩ := Candidate.ofText_eq_ok_iff.mp made
    obtain ⟨indexSum, _, rfl⟩ := Option.map_eq_some_iff.mp matched
    obtain ⟨letter, query, rfl⟩ := List.exists_cons_of_ne_nil nonempty
    cases text with
    | nil => cases keeps.2
    | cons first rest =>
        simp only [ownText, boundaries]
        exact ⟨keeps, rfl, rfl, by simp [startsAlike], rfl, rfl, rfl⟩
  · cases matched

theorem Describes.ofLength (describes : Describes query text found) : Match.OfLength query.length found := by
  have shares : Match.Shares query (wordBoundaries text) found := ⟨describes.ofQuery, describes.ofBoundaries⟩
  exact shares.ofLength describes.queryIsEmpty

theorem ties_iff_undecided (ofLeft : Describes query left leftFound) (ofRight : Describes query right rightFound) :
    Ties query left right ↔ leftFound.Undecided rightFound := by
  have leftNone := (commonLength_le query (wordBoundaries left)).2
  have rightNone := (commonLength_le query (wordBoundaries right)).2
  simp only [Ties, Match.Undecided, ofLeft.keeps, ofRight.keeps, ofLeft.sameFirst, ofRight.sameFirst,
    ofLeft.ofQuery, ofRight.ofQuery, ofLeft.ofBoundaries, ofRight.ofBoundaries, ofLeft.textStartsWithQuery,
    ofRight.textStartsWithQuery, ← List.length_eq_zero_iff, true_and]
  constructor
  · rintro ⟨nothing, leftHits, rightHits, first, start⟩
    exact ⟨nothing, first, start, by omega⟩
  · rintro ⟨nothing, first, start, hits⟩
    exact ⟨nothing, by omega, by omega, first, start⟩

end Match

section Rank

variable {α : Type} {query : Bytes} {text : α → Bytes} {items : List α}

theorem mem_found {entry : α × Match} :
    entry ∈ found query text items ↔ entry.1 ∈ items ∧ matchOf? query (text entry.1) = some entry.2 := by
  obtain ⟨item, one⟩ := entry
  simp only [found, List.mem_filterMap, Option.map_eq_some_iff, Prod.mk.injEq]
  constructor
  · rintro ⟨_, member, _, matched, rfl, rfl⟩
    exact ⟨member, matched⟩
  · rintro ⟨member, matched⟩
    exact ⟨item, member, one, matched, rfl, rfl⟩

theorem sort_beats_eq_byKey (nonempty : query ≠ []) (ascii : ∀ letter ∈ query, isAscii letter)
    (distinct : (items.map text).Nodup) (tieFree : TieFree query (items.map text)) :
    sort beats (found query text items) = sort (byKey fun entry => entry.2.key) (found query text items) := by
  apply sort_congr
  rw [found, List.pairwise_filterMap]
  refine (List.pairwise_map.mp distinct).imp_of_mem ?_
  rintro earlier later earlierMember laterMember different _ isEarlier _ isLater
  obtain ⟨earlierFound, earlierMatched, rfl⟩ := Option.map_eq_some_iff.mp isEarlier
  obtain ⟨laterFound, laterMatched, rfl⟩ := Option.map_eq_some_iff.mp isLater
  have ofEarlier := describes_of_matchOf? nonempty ascii earlierMatched
  have ofLater := describes_of_matchOf? nonempty ascii laterMatched
  have decided : ¬ laterFound.Undecided earlierFound := by
    rw [← ties_iff_undecided ofLater ofEarlier]
    exact tieFree _ (List.mem_map_of_mem laterMember) _ (List.mem_map_of_mem earlierMember) different.symm
  have inOrder := Match.before_iff_key_lt (by simpa using nonempty) ofLater.ofLength ofEarlier.ofLength decided
  rw [Bool.eq_iff_iff]
  simpa [beats, byKey] using inOrder

/-- Where no two texts tie, a ranking is the same in whatever order the items arrive. -/
theorem rank_eq_of_perm (nonempty : query ≠ []) (ascii : ∀ letter ∈ query, isAscii letter)
    (distinct : (items.map text).Nodup) (tieFree : TieFree query (items.map text)) {other : List α}
    (rearranged : other.Perm items) : rank query text other = rank query text items := by
  have sameTexts : (other.map text).Perm (items.map text) := rearranged.map text
  have otherFree : TieFree query (other.map text) := fun left leftMember right rightMember =>
    tieFree left (sameTexts.mem_iff.mp leftMember) right (sameTexts.mem_iff.mp rightMember)
  have oneOrder : sort (byKey fun entry => entry.2.key) (found query text other) =
      sort (byKey fun entry => entry.2.key) (found query text items) := by
    apply sort_byKey_eq_of_perm (rearranged.filterMap _)
    rintro ⟨first, firstFound⟩ firstMember ⟨second, secondFound⟩ secondMember sameKey
    obtain ⟨firstListed, firstMatched⟩ := mem_found.mp firstMember
    obtain ⟨secondListed, secondMatched⟩ := mem_found.mp secondMember
    have sameText : text first = text second := by
      rw [← (describes_of_matchOf? nonempty ascii firstMatched).ownText,
        ← (describes_of_matchOf? nonempty ascii secondMatched).ownText]
      exact Match.text_eq_of_key_eq sameKey
    have sameItem : first = second :=
      List.inj_on_of_nodup_map (sameTexts.nodup_iff.mpr distinct) firstListed secondListed sameText
    subst sameItem
    rw [firstMatched] at secondMatched
    cases secondMatched
    rfl
  rw [rank_eq text other nonempty ascii, rank_eq text items nonempty ascii,
    sort_beats_eq_byKey nonempty ascii (sameTexts.nodup_iff.mpr distinct) otherFree,
    sort_beats_eq_byKey nonempty ascii distinct tieFree, oneOrder]

/-- Texts that tie are listed as they come. -/
theorem sublist_rank_of_ties (nonempty : query ≠ []) (ascii : ∀ letter ∈ query, isAscii letter) {first second : α}
    (ties : Ties query (text first) (text second)) (rest : List α) :
    ∃ ranked, rank query text (first :: second :: rest) = .ok ranked ∧ [first, second].Sublist ranked := by
  obtain ⟨firstFound, firstMatched⟩ :=
    Option.isSome_iff_exists.mp ((matchOf?_isSome_iff nonempty ascii (text first)).mpr ties.1)
  obtain ⟨secondFound, secondMatched⟩ :=
    Option.isSome_iff_exists.mp ((matchOf?_isSome_iff nonempty ascii (text second)).mpr ties.2.1)
  have ofFirst := describes_of_matchOf? nonempty ascii firstMatched
  have ofSecond := describes_of_matchOf? nonempty ascii secondMatched
  have undecided := ((ties_iff_undecided ofFirst ofSecond).mp ties).symm
  have notBefore := Match.not_before_of_undecided (by simpa using nonempty) ofSecond.ofLength ofFirst.ofLength undecided
  have allFound : found query text (first :: second :: rest) =
      [(first, firstFound), (second, secondFound)] ++ found query text rest := by
    simp [found, firstMatched, secondMatched]
  have asTheyCome : sort beats [(first, firstFound), (second, secondFound)] =
      [(first, firstFound), (second, secondFound)] := by
    simp [sort, insert, beats, notBefore]
  refine ⟨_, rank_eq text _ nonempty ascii, ?_⟩
  have listed := sort_sublist_append beats [(first, firstFound), (second, secondFound)] (found query text rest)
  rw [asTheyCome, ← allFound] at listed
  exact listed.map (·.1)

/-- Two items whose texts tie are ranked as they come. -/
theorem rank_pair_of_ties (nonempty : query ≠ []) (ascii : ∀ letter ∈ query, isAscii letter) {first second : α}
    (ties : Ties query (text first) (text second)) : rank query text [first, second] = .ok [first, second] := by
  obtain ⟨ranked, isRanked, listed⟩ := sublist_rank_of_ties nonempty ascii ties []
  obtain ⟨kept, isKept, rearranged⟩ := rank_perm_filter text [first, second] nonempty ascii
  rw [isRanked] at isKept
  cases isKept
  have atMost : ranked.length ≤ [first, second].length := rearranged.length_eq.trans_le (List.length_filter_le _ _)
  rw [isRanked, listed.eq_of_length_le atMost]

theorem not_sublist_swap {first second : α} (distinct : items.Nodup) (oneWay : [first, second].Sublist items) :
    ¬ [second, first].Sublist items := by
  intro otherWay
  induction items with
  | nil => cases oneWay
  | cons item rest ih =>
      obtain ⟨absent, restDistinct⟩ := List.nodup_cons.mp distinct
      cases oneWay with
      | cons _ oneWay =>
          cases otherWay with
          | cons _ otherWay => exact ih restDistinct oneWay otherWay
          | cons_cons _ _ => exact absent (oneWay.subset (by simp))
      | cons_cons _ _ =>
          cases otherWay with
          | cons _ otherWay => exact absent (otherWay.subset (by simp))
          | cons_cons _ _ => simp_all

/-- A ranking is the same for every order of arrival exactly where no two texts tie. -/
theorem rank_perm_eq_iff (nonempty : query ≠ []) (ascii : ∀ letter ∈ query, isAscii letter)
    (distinct : (items.map text).Nodup) :
    (∀ other : List α, other.Perm items → rank query text other = rank query text items) ↔
      TieFree query (items.map text) := by
  constructor
  · intro free left leftMember right rightMember different ties
    obtain ⟨first, firstMember, rfl⟩ := List.mem_map.mp leftMember
    obtain ⟨second, secondMember, rfl⟩ := List.mem_map.mp rightMember
    -- The tied pair is put in front of all others, once in each order.
    obtain ⟨rest, pair⟩ : ∃ rest, (first :: second :: rest).Perm items := by
      obtain ⟨front, back, rfl⟩ := List.append_of_mem firstMember
      have secondRest : second ∈ front ++ back := by
        have here := List.perm_middle.mem_iff.mp secondMember
        rcases List.mem_cons.mp here with rfl | later
        · exact absurd rfl different
        · exact later
      obtain ⟨before, behind, cut⟩ := List.append_of_mem secondRest
      refine ⟨before ++ behind, ((List.perm_middle.symm.cons first).trans ?_)⟩
      rw [← cut]
      exact List.perm_middle.symm
    obtain ⟨ranked, oneWay, firstThenSecond⟩ := sublist_rank_of_ties nonempty ascii ties rest
    obtain ⟨other, otherWay, secondThenFirst⟩ := sublist_rank_of_ties nonempty ascii ties.symm rest
    have same : ranked = other := by
      have both := (free _ pair).trans (free _ ((List.Perm.swap first second rest).trans pair)).symm
      rw [oneWay, otherWay] at both
      exact Except.ok.inj both
    have rankedDistinct : ranked.Nodup := by
      obtain ⟨kept, isKept, rearranged⟩ := rank_perm_filter text (first :: second :: rest) nonempty ascii
      rw [oneWay] at isKept
      cases isKept
      exact rearranged.nodup_iff.mpr ((pair.nodup_iff.mpr distinct.of_map).filter _)
    exact not_sublist_swap rankedDistinct firstThenSecond (same ▸ secondThenFirst)
  · intro tieFree other rearranged
    exact rank_eq_of_perm nonempty ascii distinct tieFree rearranged

end Rank

end Ranking

namespace Identifier.Database

theorem filterMap_getElem?_range (texts : List Bytes) :
    (List.range texts.length).filterMap (texts[·]?) = texts := by
  induction texts using List.reverseRecOn with
  | nil => rfl
  | append_singleton texts last ih =>
      have before : ∀ place ∈ List.range texts.length, (texts ++ [last])[place]? = texts[place]? := fun place inside =>
        List.getElem?_append_left (List.mem_range.mp inside)
      rw [List.length_append, List.length_singleton, List.range_succ, List.filterMap_append,
        List.filterMap_congr before, ih]
      simp

/-- What a query answers depends on the stored texts alone exactly where no two of them tie. -/
theorem query_eq_iff_tieFree {query : Bytes} (nonempty : query ≠ []) (ascii : ∀ letter ∈ query, isAscii letter)
    (database : Database) (filetype : Bytes) :
    (∀ other : Database,
      (∀ text, text ∈ other.texts filetype ↔ text ∈ database.texts filetype) →
      other.query query filetype = database.query query filetype) ↔
      Ranking.TieFree query (database.texts filetype) := by
  have distinct := database.nodup_texts filetype
  have onTexts : _ ↔ Ranking.TieFree query ((database.texts filetype).map id) :=
    Ranking.rank_perm_eq_iff nonempty ascii (by simpa using distinct)
  rw [List.map_id] at onTexts
  rw [← onTexts]
  constructor
  · intro free rearranged perm
    -- A database of one file whose candidates are made and listed in the other order.
    let other : Database :=
      { repository := ⟨rearranged, perm.nodup_iff.mpr distinct⟩
        tables := [(filetype, [([], List.range rearranged.length)])] }
    have stored : other.texts filetype = rearranged := by
      have listed : candidates (other.files filetype) = List.range rearranged.length := by
        simp only [other, files, List.lookup_cons_self, Option.getD_some]
        exact foldl_insertNew_of_nodup (by simpa using List.nodup_range)
      rw [texts, listed]
      exact filterMap_getElem?_range rearranged
    have answered := free other fun text => by rw [stored, perm.mem_iff]
    rwa [query_eq_rank nonempty ascii, query_eq_rank nonempty ascii, stored] at answered
  · intro free other same
    rw [query_eq_rank nonempty ascii, query_eq_rank nonempty ascii]
    exact free _ ((List.perm_ext_iff_of_nodup (other.nodup_texts filetype) distinct).mpr same)

end Identifier.Database

namespace Ranking

/-- Items with different texts are ranked alike in whatever order they arrive, and a query of the identifiers
depends on the stored texts alone, exactly where no two of the texts tie. In which order tied texts are listed is that
of inserting one item after the other, as lists of up to sixteen items are sorted. -/
theorem ranking_ignores_arrival_iff (property query : String) (items : List Value)
    (haveTexts : HaveTexts property items) (distinct : (items.map (textOf property)).Nodup) (nonempty : query ≠ "")
    (ascii : ∀ letter ∈ Bytes.ofString query, isAscii letter) (database : Identifier.Database) (filetype : Bytes) :
    ((∀ other : List Value, other.Perm items →
        rankItems (.list other) property query = rankItems (.list items) property query) ↔
      TieFree (Bytes.ofString query) (items.map fun item => Bytes.ofString (textOf property item))) ∧
    ((∀ other : Identifier.Database,
        (∀ text, text ∈ other.texts filetype ↔ text ∈ database.texts filetype) →
        other.query (Bytes.ofString query) filetype = database.query (Bytes.ofString query) filetype) ↔
      TieFree (Bytes.ofString query) (database.texts filetype)) := by
  have queryNonempty := Bytes.ofString_ne_nil nonempty
  refine ⟨?_, Identifier.Database.query_eq_iff_tieFree queryNonempty ascii database filetype⟩
  have bytesDistinct : (items.map fun item => Bytes.ofString (textOf property item)).Nodup := by
    have mapped := distinct.map Bytes.ofString_injective
    rwa [List.map_map] at mapped
  rw [← rank_perm_eq_iff queryNonempty ascii bytesDistinct]
  apply forall₂_congr
  intro other rearranged
  have otherTexts : HaveTexts property other := fun item member => haveTexts item (rearranged.mem_iff.mp member)
  rw [rankItems_eq_rank otherTexts nonempty, rankItems_eq_rank haveTexts nonempty,
    rank_eq _ other queryNonempty ascii, rank_eq _ items queryNonempty ascii]
  simp [Except.map]

/-- Two texts of an underscore and a digit have no character that starts a word, and are ranked as they come. -/
theorem ranking_follows_arrival :
    let items := [Value.text "_1", .text "_2"]
    let other := [Value.text "_2", .text "_1"]
    other.Perm items ∧ rankItems (.list items) "" "_" = .ok (.list items) ∧
      rankItems (.list other) "" "_" = .ok (.list other) ∧ items ≠ other := by
  intro items other
  have itemsTexts : HaveTexts "" items := by simp [HaveTexts, items, text?]
  have otherTexts : HaveTexts "" other := by simp [HaveTexts, other, text?]
  have ascii : ∀ letter ∈ Bytes.ofString "_", isAscii letter := by decide +kernel
  have ties : Ties (Bytes.ofString "_") (Bytes.ofString "_1") (Bytes.ofString "_2") := by decide +kernel
  have textOf_text : ∀ content, textOf "" (.text content) = content := by simp [textOf, text?]
  refine ⟨List.Perm.swap _ _ _, ?_, ?_, ?_⟩
  · rw [rankItems_eq_rank itemsTexts (by decide), rank_pair_of_ties (Bytes.ofString_ne_nil (by decide)) ascii]
    · rfl
    · simpa only [textOf_text] using ties
  · rw [rankItems_eq_rank otherTexts (by decide), rank_pair_of_ties (Bytes.ofString_ne_nil (by decide)) ascii]
    · rfl
    · simpa only [textOf_text] using ties.symm
  · simp [items, other]

/-- Texts that start with a letter have a character that starts a word, and come out in one order. -/
theorem ranking_ignores_arrival_camel :
    let items := [Value.text "fooBar", .text "foo_bar", .text "FOOBAR"]
    HaveTexts "" items ∧ (items.map (textOf "")).Nodup ∧
      ∀ other : List Value, other.Perm items →
        rankItems (.list other) "" "fb" = rankItems (.list items) "" "fb" := by
  intro items
  have haveTexts : HaveTexts "" items := by simp [HaveTexts, items, text?]
  have texts : items.map (textOf "") = ["fooBar", "foo_bar", "FOOBAR"] := by simp [items, textOf, text?]
  have distinct : (items.map (textOf "")).Nodup := by
    rw [texts]
    decide
  have ascii : ∀ letter ∈ Bytes.ofString "fb", isAscii letter := by decide +kernel
  have tieFree : TieFree (Bytes.ofString "fb") (items.map fun item => Bytes.ofString (textOf "" item)) := by
    have free : TieFree (Bytes.ofString "fb") (["fooBar", "foo_bar", "FOOBAR"].map Bytes.ofString) := by decide +kernel
    rwa [← texts, List.map_map] at free
  have exactly := ranking_ignores_arrival_iff "" "fb" items haveTexts distinct (by decide) ascii {} []
  exact ⟨haveTexts, distinct, exactly.1.mpr tieFree⟩

end Ranking

end Typeahead

import Typeahead.Proofs.LetterIndex
import Typeahead.Proofs.Sorting
import Typeahead.Ranking.Items

namespace Typeahead

/-! Which items a ranking keeps. Interning, the letter set, the letter index and the choice of case come
together here: an item stays exactly when its text can be shown and the query embeds in it. -/

open Letter

namespace Bytes

private theorem toList_loop (bytes : ByteArray) (position : Nat) (seen : List UInt8) :
    ByteArray.toList.loop bytes position seen = seen.reverse ++ bytes.data.toList.drop position := by
  fun_induction ByteArray.toList.loop bytes position seen with
  | case1 position seen within ih =>
      have bound : position < bytes.data.toList.length := within
      have first : bytes.get! position = bytes.data.toList[position] := by
        rw [Array.getElem_toList]
        exact getElem!_pos bytes.data position within
      rw [ih, List.reverse_cons, List.append_assoc, List.drop_eq_getElem_cons bound, List.singleton_append, first]
  | case2 position seen beyond =>
      have bound : bytes.data.toList.length ≤ position := by simpa using beyond
      rw [List.drop_eq_nil_of_le bound, List.append_nil]

theorem ofString_eq (text : String) : ofString text = text.toByteArray.data.toList := by
  simp [ofString, ByteArray.toList, toList_loop]

theorem ofString_injective : Function.Injective ofString := by
  intro left right same
  rw [ofString_eq, ofString_eq] at same
  exact String.toByteArray_inj.mp (ByteArray.ext (Array.toList_inj.mp same))

theorem ofString_ne_nil {text : String} (nonempty : text ≠ "") : ofString text ≠ [] := by
  intro empty
  refine nonempty (ofString_injective (empty.trans ?_))
  simp [ofString_eq]

end Bytes

namespace Candidate

theorem shown_eq {text : Bytes} (printable : ∀ letter ∈ text, isPrintable letter) : shown text = text :=
  if_pos (List.all_eq_true.mpr printable)

theorem shown_eq_nil {text : Bytes} (hidden : ¬ ∀ letter ∈ text, isPrintable letter) : shown text = [] :=
  if_neg fun printable => hidden (List.all_eq_true.mp printable)

theorem isPrintable_of_mem_shown (text : Bytes) : ∀ letter ∈ shown text, isPrintable letter := by
  by_cases printable : ∀ letter ∈ text, isPrintable letter
  · rw [shown_eq printable]
    exact printable
  · simp [shown_eq_nil printable]

/-- A candidate can be made of exactly the ASCII texts, and has everything from its text. -/
theorem ofText_eq_ok_iff {text : Bytes} {candidate : Candidate} :
    ofText text = .ok candidate ↔
      LetterSet.ofText text = .ok candidate.letters ∧ candidate.text = text ∧
        candidate.boundaries = wordBoundaries text ∧ candidate.isLower = text.all Letter.isLower ∧
        candidate.index = LetterIndex.ofText text := by
  unfold ofText
  cases LetterSet.ofText text with
  | error fault => simp [Except.map]
  | ok letters =>
      obtain ⟨ownText, boundaries, isLower, ownLetters, index⟩ := candidate
      simp only [Except.map, Except.ok.injEq, mk.injEq]
      constructor
      · rintro ⟨rfl, rfl, rfl, rfl, rfl⟩
        exact ⟨rfl, rfl, rfl, rfl, rfl⟩
      · rintro ⟨rfl, rfl, rfl, rfl, rfl⟩
        exact ⟨rfl, rfl, rfl, rfl, rfl⟩

theorem ofText_exists {text : Bytes} (ascii : ∀ letter ∈ text, isAscii letter) :
    ∃ candidate, ofText text = .ok candidate := by
  obtain ⟨letters, found, _⟩ := LetterSet.ofText_exists ascii
  exact ⟨_, by simp [ofText, found, Except.map]; rfl⟩

theorem ofText_shown_exists (text : Bytes) : ∃ candidate, ofText (shown text) = .ok candidate :=
  ofText_exists fun letter member => isAscii_of_isPrintable (isPrintable_of_mem_shown text letter member)

end Candidate

theorem LetterSet.isAscii_of_ofText {text : Bytes} {letters : LetterSet} (found : ofText text = .ok letters) :
    ∀ letter ∈ text, isAscii letter := by
  by_contra foreign
  push Not at foreign
  rw [ofText_eq_error foreign] at found
  cases found

theorem Match.ofQuery?_isSome_iff {text query : Bytes} {candidate : Candidate} {caseSensitive : Bool}
    (made : Candidate.ofText text = .ok candidate) :
    (ofQuery? candidate query caseSensitive).isSome ↔
      List.SublistForall₂ (Accepts caseSensitive) query text := by
  obtain ⟨_, _, _, _, index⟩ := Candidate.ofText_eq_ok_iff.mp made
  rw [ofQuery?, Option.isSome_map, index, LetterIndex.walk_whole]
  exact LetterIndex.walk_isSome_iff text caseSensitive 0 query

/-- The letter set never turns down a candidate that the walk through its letters would take. -/
theorem Candidate.contains_of_ofQuery?_isSome {text query : Bytes} {candidate : Candidate} {wanted : LetterSet}
    {caseSensitive : Bool} (made : ofText text = .ok candidate) (ofQuery : LetterSet.ofText query = .ok wanted)
    (taken : (Match.ofQuery? candidate query caseSensitive).isSome) : candidate.letters.contains wanted := by
  have ofCandidate := (ofText_eq_ok_iff.mp made).1
  exact LetterSet.contains_of_embeds (LetterSet.isAscii_of_ofText ofQuery) (LetterSet.isAscii_of_ofText ofCandidate)
    ofQuery ofCandidate ((Match.ofQuery?_isSome_iff made).mp taken)

namespace Ranking

/-- The texts that a query keeps: those that can be shown and have its letters in order. Case counts for the
upper-case letters of the query. -/
def Keeps (query text : Bytes) : Prop :=
  (∀ letter ∈ text, isPrintable letter) ∧ List.SublistForall₂ (Accepts (caseCounts query)) query text

instance (query text : Bytes) : Decidable (Keeps query text) :=
  inferInstanceAs (Decidable ((∀ letter ∈ text, isPrintable letter) ∧
    List.SublistForall₂ (Accepts (caseCounts query)) query text))

/-- The match of a query with a text, as it takes part in a ranking. -/
def matchOf? (query text : Bytes) : Option Match :=
  match LetterSet.ofText query, Candidate.ofText (Candidate.shown text) with
  | .ok letters, .ok candidate => match? query letters candidate
  | _, _ => none

variable {query : Bytes}

theorem matchOf?_isSome_iff (nonempty : query ≠ []) (ascii : ∀ letter ∈ query, isAscii letter) (text : Bytes) :
    (matchOf? query text).isSome ↔ Keeps query text := by
  obtain ⟨letters, ofQuery, _⟩ := LetterSet.ofText_exists ascii
  obtain ⟨candidate, made⟩ := Candidate.ofText_shown_exists text
  have embeds : (matchOf? query text).isSome ↔
      List.SublistForall₂ (Accepts (caseCounts query)) query (Candidate.shown text) := by
    rw [← Match.ofQuery?_isSome_iff made]
    simp only [matchOf?, ofQuery, made, match?]
    split
    · exact Iff.rfl
    · rename_i lacking
      simpa using fun taken => lacking (Candidate.contains_of_ofQuery?_isSome made ofQuery taken)
  rw [embeds, Keeps]
  by_cases printable : ∀ letter ∈ text, isPrintable letter
  · rw [Candidate.shown_eq printable]
    exact (and_iff_right printable).symm
  · rw [Candidate.shown_eq_nil printable]
    constructor
    · intro embedded
      cases embedded
      exact absurd rfl nonempty
    · intro kept
      exact absurd kept.1 printable

section Rank

variable {α : Type} (text : α → Bytes) (items : List α)

/-- The items that match, each with its match. -/
def found (query : Bytes) (text : α → Bytes) (items : List α) : List (α × Match) :=
  items.filterMap fun item => (matchOf? query (text item)).map (item, ·)

/-- The comparison that a ranking sorts by. -/
def beats (left right : α × Match) : Bool := left.2.before right.2

theorem mapM_candidates {letters : LetterSet} (ofQuery : LetterSet.ofText query = .ok letters) :
    ∃ candidates,
      (items.mapM fun item => (Candidate.ofText (Candidate.shown (text item))).map (item, ·)) = .ok candidates ∧
      (candidates.filterMap fun (item, candidate) => (match? query letters candidate).map (item, ·)) =
        found query text items := by
  induction items with
  | nil => exact ⟨[], rfl, rfl⟩
  | cons item rest ih =>
      obtain ⟨candidates, made, filtered⟩ := ih
      obtain ⟨candidate, first⟩ := Candidate.ofText_shown_exists (text item)
      have matched : matchOf? query (text item) = match? query letters candidate := by
        simp [matchOf?, ofQuery, first]
      refine ⟨(item, candidate) :: candidates, ?_, ?_⟩
      · rw [List.mapM_cons, made, first]
        rfl
      · rw [found, List.filterMap_cons, List.filterMap_cons, matched, ← found, filtered]

/-- A ranking is the sorted list of what is found. -/
theorem rank_eq (nonempty : query ≠ []) (ascii : ∀ letter ∈ query, isAscii letter) :
    rank query text items = .ok ((sort beats (found query text items)).map (·.1)) := by
  obtain ⟨letters, ofQuery, _⟩ := LetterSet.ofText_exists ascii
  obtain ⟨candidates, made, filtered⟩ := mapM_candidates text items ofQuery
  have notEmpty : query.isEmpty = false := by simpa using nonempty
  simp only [rank, notEmpty, made, ofQuery]
  rw [← filtered]
  rfl

theorem rank_eq_error (foreign : ∃ letter ∈ query, ¬ isAscii letter) :
    rank query text items = .error .outOfRange := by
  obtain ⟨candidates, made, _⟩ := mapM_candidates text items (show LetterSet.ofText [] = .ok 0 from rfl)
  have notEmpty : query.isEmpty = false := by
    obtain ⟨letter, member, _⟩ := foreign
    simpa using List.ne_nil_of_mem member
  simp only [rank, notEmpty, made, LetterSet.ofText_eq_error foreign]
  rfl

theorem map_fst_found (nonempty : query ≠ []) (ascii : ∀ letter ∈ query, isAscii letter) :
    (found query text items).map (·.1) = items.filter fun item => decide (Keeps query (text item)) := by
  induction items with
  | nil => rfl
  | cons item rest ih =>
      have kept := matchOf?_isSome_iff nonempty ascii (text item)
      rw [found, List.filterMap_cons, List.filter_cons, ← found]
      cases matched : matchOf? query (text item) with
      | none => simp_all
      | some one => simp_all

/-- A ranking keeps exactly the items whose texts the query keeps, each as often as it was there. -/
theorem rank_perm_filter (nonempty : query ≠ []) (ascii : ∀ letter ∈ query, isAscii letter) :
    ∃ ranked, rank query text items = .ok ranked ∧
      ranked.Perm (items.filter fun item => decide (Keeps query (text item))) := by
  refine ⟨_, rank_eq text items nonempty ascii, ?_⟩
  rw [← map_fst_found text items nonempty ascii]
  exact (sort_perm beats _).map _

/-- Items are ranked alike under other names. -/
theorem rank_map {β : Type} (name : β → α) (items : List β) (nonempty : query ≠ []) :
    rank query text (items.map name) = (rank query (text ∘ name) items).map (List.map name) := by
  by_cases ascii : ∀ letter ∈ query, isAscii letter
  · have renamed : found query text (items.map name) =
        (found query (text ∘ name) items).map fun entry => (name entry.1, entry.2) := by
      simp only [found, List.filterMap_map, List.map_filterMap, Function.comp_def, Option.map_map]
    rw [rank_eq text _ nonempty ascii, rank_eq (text ∘ name) items nonempty ascii, renamed, sort_map]
    simp only [Except.map, List.map_map]
    rfl
  · push Not at ascii
    rw [rank_eq_error text _ ascii, rank_eq_error (text ∘ name) items ascii]
    rfl

end Rank

section Items

/-- The text an item is ranked by: the item itself where no property is named, else the field of that name. -/
def text? (property : String) (item : Value) : Option String :=
  match item with
  | .text content => if property = "" then some content else none
  | .record fields =>
    if property = "" then none
    else match fields.lookup property with
      | some (.text content) => some content
      | _ => none
  | _ => none

/-- Items that are all texts, or all records with a text under the property. -/
def HaveTexts (property : String) (items : List Value) : Prop := ∀ item ∈ items, (text? property item).isSome

def textOf (property : String) (item : Value) : String := (text? property item).getD ""

variable {property : String} {items : List Value}

theorem itemText_eq {item : Value} (hasText : (text? property item).isSome) :
    itemText property item = .ok (textOf property item) := by
  obtain ⟨content, found⟩ := Option.isSome_iff_exists.mp hasText
  rw [textOf, found]
  unfold text? at found
  split at found
  · split at found
    · rename_i unnamed
      cases found
      simp [itemText, unnamed, Value.display]
    · cases found
  · rename_i fields
    split at found
    · cases found
    · rename_i named
      split at found
      · rename_i under
        cases found
        simp [itemText, named, Value.field, under, Except.map, Value.display]
      · cases found
  · cases found

theorem mapM_itemText (haveTexts : HaveTexts property items) :
    items.mapM (itemText property) = .ok (items.map (textOf property)) := by
  induction items with
  | nil => rfl
  | cons item rest ih =>
      have first := itemText_eq (haveTexts item List.mem_cons_self)
      have later := ih fun other member => haveTexts other (List.mem_cons_of_mem _ member)
      rw [List.mapM_cons, first, later]
      rfl

/-- Ranking items is ranking them by the bytes of their texts. -/
theorem rankItems_eq_rank (haveTexts : HaveTexts property items) {query : String} (nonempty : query ≠ "") :
    rankItems (.list items) property query =
      (rank (Bytes.ofString query) (fun item => Bytes.ofString (textOf property item)) items).map .list := by
  have notEmpty : query.isEmpty = false := by simpa using nonempty
  have zipped : items.zip (items.map (textOf property)) = items.map fun item => (item, textOf property item) := by
    have paired := List.zip_map' (f := id) (g := textOf property) (l := items)
    rwa [List.map_id] at paired
  simp only [rankItems, notEmpty, mapM_itemText haveTexts]
  change (rank (Bytes.ofString query) _ (items.zip _) >>= fun ranked => pure (Value.list (ranked.map (·.1)))) = _
  rw [zipped, rank_map _ _ _ (Bytes.ofString_ne_nil nonempty)]
  simp only [Function.comp_def]
  cases rank (Bytes.ofString query) (fun item => Bytes.ofString (textOf property item)) items with
  | error fault => rfl
  | ok ranked => simp [Except.map, bind, Except.bind, pure, Except.pure, Function.comp_def]

/-- A ranking of items keeps them as they are for an empty query, fails for one that is not ASCII, and keeps for
any other exactly the items, with their multiplicity, whose texts can be shown and have the query's letters in
order. The letter set turns down no candidate that the letter index would match. -/
theorem rankItems_keeps_exactly (property query : String) (items : List Value)
    (haveTexts : HaveTexts property items) :
    (query = "" → rankItems (.list items) property query = .ok (.list items)) ∧
    ((∃ letter ∈ Bytes.ofString query, ¬ isAscii letter) →
      ∃ fault, rankItems (.list items) property query = .error fault ∧ fault.name = "IndexError") ∧
    (query ≠ "" → (∀ letter ∈ Bytes.ofString query, isAscii letter) →
      ∃ kept, rankItems (.list items) property query = .ok (.list kept) ∧
        kept.Perm (items.filter fun item =>
          decide (Keeps (Bytes.ofString query) (Bytes.ofString (textOf property item))))) ∧
    ∀ (text wanted : Bytes) (candidate : Candidate) (letters : LetterSet) (caseSensitive : Bool),
      Candidate.ofText text = .ok candidate → LetterSet.ofText wanted = .ok letters →
        (Match.ofQuery? candidate wanted caseSensitive).isSome → candidate.letters.contains letters := by
  refine ⟨?_, ?_, ?_, ?_⟩
  · rintro rfl
    rfl
  · intro foreign
    have nonempty : query ≠ "" := by
      rintro rfl
      simp [Bytes.ofString_eq] at foreign
    refine ⟨.outOfRange, ?_, rfl⟩
    rw [rankItems_eq_rank haveTexts nonempty, rank_eq_error _ _ foreign]
    rfl
  · intro nonempty ascii
    obtain ⟨kept, ranked, rearranged⟩ := rank_perm_filter (fun item => Bytes.ofString (textOf property item)) items
      (Bytes.ofString_ne_nil nonempty) ascii
    refine ⟨kept, ?_, rearranged⟩
    rw [rankItems_eq_rank haveTexts nonempty, ranked]
    rfl
  · intro text wanted candidate letters caseSensitive made ofQuery taken
    exact Candidate.contains_of_ofQuery?_isSome made ofQuery taken

theorem rankItems_keeps_exactly_by_word :
    let word (content : String) : Value := .record [("word", .text content)]
    let items := [word "fooBar", word "foobar", word "fooBär", word "FooBar", word "fooBar"]
    HaveTexts "word" items ∧
      ∃ kept, rankItems (.list items) "word" "fB" = .ok (.list kept) ∧
        kept.Perm [word "fooBar", word "FooBar", word "fooBar"] := by
  intro word items
  have haveTexts : HaveTexts "word" items := by simp [HaveTexts, items, word, text?]
  have ascii : ∀ letter ∈ Bytes.ofString "fB", isAscii letter := by decide +kernel
  have textOf_word : ∀ content, textOf "word" (word content) = content := by simp [word, textOf, text?]
  have camel : Keeps (Bytes.ofString "fB") (Bytes.ofString "fooBar") := by decide +kernel
  have capital : Keeps (Bytes.ofString "fB") (Bytes.ofString "FooBar") := by decide +kernel
  have lower : ¬ Keeps (Bytes.ofString "fB") (Bytes.ofString "foobar") := by decide +kernel
  have foreign : ¬ Keeps (Bytes.ofString "fB") (Bytes.ofString "fooBär") := by decide +kernel
  obtain ⟨_, _, keeps, _⟩ := rankItems_keeps_exactly "word" "fB" items haveTexts
  obtain ⟨kept, ranked, rearranged⟩ := keeps (by decide) ascii
  refine ⟨haveTexts, kept, ranked, rearranged.trans (List.Perm.of_eq ?_)⟩
  simp [items, textOf_word, camel, capital, lower, foreign]

end Items

end Ranking

end Typeahead

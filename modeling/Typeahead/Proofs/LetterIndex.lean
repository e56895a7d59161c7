import Typeahead.Proofs.SmartCase

namespace Typeahead

/-! The letter index and the letter set of a candidate, against the plain text. The letters of the text are entered
into the index in two ways, behind the others from the first on and before the others from the last on; either way the
table for what stands from a place of the text on lists the places of each letter there in order. A walk through these
tables succeeds exactly when the query embeds in the text; and the letter set never turns down a text in which the
query embeds. -/

open Letter

namespace LetterTable

theorem places?_update (table : LetterTable) (letter other : UInt8) (change : List Place → List Place) :
    (table.update letter change).places? other =
      if lower other = lower letter then some (change ((table.places? other).getD [])) else table.places? other := by
  unfold places?
  induction table with
  | nil =>
      by_cases same : lower other = lower letter
      · simp [update, same]
      · simp [update, List.lookup_cons, same, beq_false_of_ne same]
  | cons entry rest ih =>
      obtain ⟨key, places⟩ := entry
      unfold update
      by_cases here : key = lower letter
      · subst here
        by_cases same : lower other = lower letter
        · simp [same]
        · simp [List.lookup_cons, same, beq_false_of_ne same]
      · simp only [beq_eq_false_iff_ne.mpr here, Bool.false_eq_true, if_false, List.lookup_cons, ih]
        cases found : lower other == key with
        | false => rfl
        | true =>
            have different : lower other ≠ lower letter := by
              rw [eq_of_beq found]
              exact here
            simp [different]

theorem places?_append (table : LetterTable) (letter other : UInt8) (place : Place) :
    (table.append letter place).places? other =
      if lower other = lower letter then some ((table.places? other).getD [] ++ [place]) else table.places? other :=
  places?_update table letter other _

theorem places?_prepend (table : LetterTable) (letter other : UInt8) (place : Place) :
    (table.prepend letter place).places? other =
      if lower other = lower letter then some (place :: (table.places? other).getD []) else table.places? other :=
  places?_update table letter other _

end LetterTable

namespace LetterIndex

/-- The places of a letter, both cases together, in a text whose first letter has the number `start`. -/
def placesFrom (start : Nat) (letter : UInt8) (text : Bytes) : List Place :=
  ((text.zipIdx start).filter fun entry => lower entry.1 == lower letter).map placeOf

theorem placesFrom_cons (start : Nat) (letter first : UInt8) (rest : Bytes) :
    placesFrom start letter (first :: rest) =
      if lower first = lower letter then ⟨start, Letter.isUpper first⟩ :: placesFrom (start + 1) letter rest
      else placesFrom (start + 1) letter rest := by
  by_cases same : lower first = lower letter <;> simp [placesFrom, placeOf, same]

/-- Letters that are entered from the first on come behind those that were there. -/
theorem places?_foldl_append (table : LetterTable) (start : Nat) (text : Bytes) (letter : UInt8) :
    ((text.zipIdx start).foldl (fun table entry => table.append entry.1 (placeOf entry)) table).places? letter =
      if placesFrom start letter text = [] then table.places? letter
      else some ((table.places? letter).getD [] ++ placesFrom start letter text) := by
  induction text generalizing start table with
  | nil => rfl
  | cons first rest ih =>
      rw [List.zipIdx_cons, List.foldl_cons, ih, LetterTable.places?_append, placesFrom_cons]
      by_cases same : lower first = lower letter
      · by_cases nowhere : placesFrom (start + 1) letter rest = [] <;> simp [same, nowhere, placeOf]
      · simp [same, Ne.symm same]

theorem places?_wholeOf (text : Bytes) (letter : UInt8) :
    (wholeOf text).places? letter =
      if placesFrom 0 letter text = [] then none else some (placesFrom 0 letter text) :=
  places?_foldl_append [] 0 text letter

/-- The letters of a text whose first letter has the number `start`, entered from the last to the first. -/
def tableFrom (start : Nat) (text : Bytes) : LetterTable :=
  (text.zipIdx start).foldr (fun entry table => table.prepend entry.1 (placeOf entry)) []

theorem places?_tableFrom (start : Nat) (text : Bytes) (letter : UInt8) :
    (tableFrom start text).places? letter =
      if placesFrom start letter text = [] then none else some (placesFrom start letter text) := by
  induction text generalizing start with
  | nil => rfl
  | cons first rest ih =>
      have entered : tableFrom start (first :: rest) =
          (tableFrom (start + 1) rest).prepend first ⟨start, Letter.isUpper first⟩ := rfl
      rw [entered, LetterTable.places?_prepend, placesFrom_cons, ih]
      by_cases same : lower first = lower letter
      · by_cases nowhere : placesFrom (start + 1) letter rest = [] <;> simp [same, nowhere]
      · simp [same, Ne.symm same]

/-- The table for what stands from a place of the text on. -/
def tableAt (text : Bytes) (place : Nat) : LetterTable := tableFrom place (text.drop place)

/-- Each table has the letters that follow its place, whichever others are filled along with it. -/
theorem getElem?_foldr_enterBefore (entries : List (UInt8 × Nat)) (tables : List LetterTable) (place : Nat) :
    (entries.foldr enterBefore tables)[place]? =
      (tables[place]?).map fun table =>
        (entries.filter fun entry => place < entry.2).foldr (fun entry table => table.prepend entry.1 (placeOf entry))
          table := by
  induction entries with
  | nil => simp
  | cons entry entries ih =>
      rw [List.foldr_cons, enterBefore, List.getElem?_mapIdx, ih, Option.map_map]
      by_cases before : place < entry.2 <;> simp [before, Function.comp_def]

theorem filter_zipIdx_lt (text : Bytes) (start place : Nat) :
    ((text.zipIdx start).filter fun entry => start + place < entry.2) =
      (text.drop (place + 1)).zipIdx (start + place + 1) := by
  induction text generalizing start place with
  | nil => rfl
  | cons first rest ih =>
      cases place with
      | zero =>
          have behind : ∀ entry ∈ rest.zipIdx (start + 1), start < entry.2 := by
            intro entry member
            exact List.le_snd_of_mem_zipIdx member
          simpa using behind
      | succ place =>
          have shifted := ih (start + 1) place
          rw [Nat.add_assoc start 1 place, Nat.add_comm 1 place] at shifted
          simpa using shifted

theorem after_ofText {text : Bytes} {place : Nat} (within : place < text.length) :
    (ofText text).after[place]? = some (tableAt text (place + 1)) := by
  have following : (text.zipIdx.filter fun entry => place < entry.2) = (text.drop (place + 1)).zipIdx (place + 1) := by
    simpa using filter_zipIdx_lt text 0 place
  rw [ofText, afterOf, getElem?_foldr_enterBefore, following]
  simp [within, tableAt, tableFrom]

section Lists

/-- What there is of a list has exactly the places of a letter from a number of the text on, both cases together, in
increasing order and each with its own case; there is no list if there is no such place. -/
structure Lists (text : Bytes) (start : Nat) (letter : UInt8) (listed : Option (List Place)) : Prop where
  increasing : ∀ places ∈ listed, places.Pairwise fun place later => place.index < later.index
  exactly : ∀ places ∈ listed, ∀ place, place ∈ places ↔
    start ≤ place.index ∧ ∃ found, text[place.index]? = some found ∧ lower found = lower letter ∧
      place.isUpper = Letter.isUpper found
  absent : listed = none ↔ ∀ place found, start ≤ place → text[place]? = some found → lower found ≠ lower letter

theorem pairwise_placesFrom (start : Nat) (letter : UInt8) (text : Bytes) :
    (placesFrom start letter text).Pairwise fun place later => place.index < later.index := by
  have increasing : ((text.zipIdx start).map Prod.snd).Pairwise (· < ·) := by
    rw [List.zipIdx_map_snd]
    exact List.pairwise_lt_range'
  unfold placesFrom
  rw [List.pairwise_map]
  exact (List.pairwise_map.mp increasing).filter _

theorem mem_placesFrom_iff (text : Bytes) (start : Nat) (letter : UInt8) (place : Place) :
    place ∈ placesFrom start letter (text.drop start) ↔
      start ≤ place.index ∧ ∃ found, text[place.index]? = some found ∧ lower found = lower letter ∧
        place.isUpper = Letter.isUpper found := by
  obtain ⟨index, isUpper⟩ := place
  constructor
  · intro member
    obtain ⟨⟨found, _⟩, entered, isPlace⟩ := List.mem_map.mp member
    cases isPlace
    obtain ⟨inText, same⟩ := List.mem_filter.mp entered
    obtain ⟨later, isFound⟩ := List.mk_mem_zipIdx_iff_le_and_getElem?_sub.mp inText
    rw [List.getElem?_drop, Nat.add_sub_cancel' later] at isFound
    exact ⟨later, found, isFound, eq_of_beq same, rfl⟩
  · rintro ⟨later, found, isFound, same, rfl⟩
    rw [← Nat.add_sub_cancel' later, ← List.getElem?_drop] at isFound
    refine List.mem_map.mpr ⟨(found, index), List.mem_filter.mpr ⟨?_, beq_iff_eq.mpr same⟩, rfl⟩
    exact List.mk_mem_zipIdx_iff_le_and_getElem?_sub.mpr ⟨later, isFound⟩

theorem lists_placesFrom (text : Bytes) (start : Nat) (letter : UInt8) :
    Lists text start letter
      (if placesFrom start letter (text.drop start) = [] then none
        else some (placesFrom start letter (text.drop start))) := by
  have members := mem_placesFrom_iff text start letter
  have increasing := pairwise_placesFrom start letter (text.drop start)
  generalize placesFrom start letter (text.drop start) = places at members increasing
  by_cases nowhere : places = []
  · subst nowhere
    refine ⟨by simp, by simp, ?_⟩
    simp only [if_true, true_iff]
    intro place found later isFound same
    exact List.not_mem_nil ((members ⟨place, _⟩).mpr ⟨later, found, isFound, same, rfl⟩)
  · obtain ⟨first, isFirst⟩ := List.exists_mem_of_ne_nil places nowhere
    obtain ⟨later, found, isFound, same, _⟩ := (members first).mp isFirst
    simp only [nowhere, if_false]
    refine ⟨by simpa using increasing, by simpa using members, ?_⟩
    simp only [reduceCtorEq, false_iff]
    exact fun none => none first.index found later isFound same

end Lists

/-- The tables of the index list the places of each letter in order, and miss none: the table of the whole text, into
which the letters are entered from the first on, all of them, and the tables of the places, which are filled side by
side from the last letter on, those that follow the place. -/
theorem ofText_lists_each_letter (text : Bytes) (letter : UInt8) :
    Lists text 0 letter ((ofText text).whole.places? letter) ∧
      ∀ place < text.length, ∃ table, (ofText text).after[place]? = some table ∧
        Lists text (place + 1) letter (table.places? letter) := by
  constructor
  · have entered : (ofText text).whole.places? letter = _ := places?_wholeOf text letter
    rw [entered]
    exact lists_placesFrom text 0 letter
  · intro place within
    refine ⟨_, after_ofText within, ?_⟩
    rw [tableAt, places?_tableFrom]
    exact lists_placesFrom text (place + 1) letter

/-- Behind the second letter both cases of it follow, in the order of the text. -/
theorem ofText_lists_each_letter_mixed :
    let text := Bytes.ofString "aAbaA"
    1 < text.length ∧ ∃ table, (ofText text).after[1]? = some table ∧
      table.places? 65 = some [⟨3, false⟩, ⟨4, true⟩] ∧ Lists text 2 65 (table.places? 65) := by
  intro text
  have within : 1 < text.length := by decide +kernel
  have filled : ((ofText text).after[1]?).map (·.places? 65) = some (some [⟨3, false⟩, ⟨4, true⟩]) := by decide +kernel
  obtain ⟨table, isTable, lists⟩ := (ofText_lists_each_letter text 65).2 1 within
  rw [isTable] at filled
  exact ⟨within, table, isTable, Option.some.inj filled, lists⟩

/-- Of the places of a letter, the one that is chosen is that of the first letter accepted. -/
theorem choose_placesFrom (caseSensitive : Bool) (letter : UInt8) (start : Nat) (text : Bytes) :
    (choose caseSensitive letter (placesFrom start letter text)).map Place.index =
      (text.findIdx? fun found => decide (Accepts caseSensitive letter found)).map (start + ·) := by
  induction text generalizing start with
  | nil => simp [placesFrom, choose]
  | cons first rest ih =>
      have later := ih (start + 1)
      have shifted : (fun offset => start + 1 + offset) = (fun offset => start + (offset + 1)) := by
        funext offset
        omega
      rw [placesFrom_cons, List.findIdx?_cons]
      by_cases accepted : Accepts caseSensitive letter first
      · have same := accepted.lower_eq
        by_cases strict : (caseSensitive && Letter.isUpper letter) = true
        · have upper : Letter.isUpper first := by
            simp only [Accepts, strict, if_true] at accepted
            rw [accepted]
            exact (Bool.and_eq_true_iff.mp strict).2
          simp [same, accepted, choose, strict, upper]
        · simp [same, accepted, choose, strict]
      · have skipped : choose caseSensitive letter
            (if lower first = lower letter then ⟨start, Letter.isUpper first⟩ :: placesFrom (start + 1) letter rest
              else placesFrom (start + 1) letter rest) =
            choose caseSensitive letter (placesFrom (start + 1) letter rest) := by
          split
          · rename_i same
            -- Only a place of the wrong case is passed over.
            have strict : (caseSensitive && Letter.isUpper letter) = true := by
              by_contra lenient
              exact accepted (by simp [Accepts, lenient, same])
            obtain ⟨rfl, upper⟩ := Bool.and_eq_true_iff.mp strict
            have wrongCase : Letter.isUpper first = false := by
              simpa using fun found => accepted ((accepts_iff_isUpper upper same).mpr found)
            simp [choose, upper, wrongCase]
          · rfl
        rw [skipped, later]
        simp [accepted, Option.map_map, Function.comp_def, shifted]

theorem walk_cons (index : LetterIndex) (caseSensitive : Bool) (table : LetterTable) (letter : UInt8) (query : Bytes) :
    index.walk caseSensitive table (letter :: query) =
      (((table.places? letter).bind (choose caseSensitive letter)).map Place.index).bind fun place =>
        (index.after[place]?).bind fun following =>
          (index.walk caseSensitive following query).map (place + ·) := by
  cases found : table.places? letter with
  | none => simp [walk, found]
  | some places =>
      cases chosen : choose caseSensitive letter places with
      | none => simp [walk, found, chosen]
      | some place =>
          cases following : index.after[place.index]? with
          | none => simp [walk, found, chosen, following]
          | some table =>
              cases rest : index.walk caseSensitive table query <;> simp [walk, found, chosen, following, rest]

/-- A walk sees no more of a table than its lists. -/
theorem walk_whole (text : Bytes) (caseSensitive : Bool) (query : Bytes) :
    (ofText text).walk caseSensitive (ofText text).whole query =
      (ofText text).walk caseSensitive (tableAt text 0) query := by
  cases query with
  | nil => rfl
  | cons letter query =>
      have same : (ofText text).whole.places? letter = (tableAt text 0).places? letter := by
        rw [tableAt, places?_tableFrom]
        exact places?_wholeOf text letter
      rw [walk_cons, walk_cons, same]

/-- One letter of a query takes the first letter of the rest of the text that is accepted. -/
theorem walk_ofText_cons (text : Bytes) (caseSensitive : Bool) (place : Nat) (letter : UInt8) (query : Bytes) :
    (ofText text).walk caseSensitive (tableAt text place) (letter :: query) =
      ((text.drop place).findIdx? fun found => decide (Accepts caseSensitive letter found)).bind fun offset =>
        ((ofText text).walk caseSensitive (tableAt text (place + offset + 1)) query).map (place + offset + ·) := by
  have first : (((tableAt text place).places? letter).bind (choose caseSensitive letter)).map Place.index =
      ((text.drop place).findIdx? fun found => decide (Accepts caseSensitive letter found)).map (place + ·) := by
    rw [tableAt, places?_tableFrom, ← choose_placesFrom]
    split
    · rename_i nowhere
      simp [nowhere, choose]
    · rfl
  rw [walk_cons, first, Option.bind_map]
  cases located : (text.drop place).findIdx? fun found => decide (Accepts caseSensitive letter found) with
  | none => rfl
  | some offset =>
      have bound := (List.findIdx?_eq_some_iff_findIdx_eq.mp located).1
      rw [List.length_drop] at bound
      simp only [Function.comp_apply, Option.bind_some]
      rw [after_ofText (by omega)]
      rfl

/-- The walk from a place of the text on succeeds exactly when the query embeds in what stands there. -/
theorem walk_isSome_iff (text : Bytes) (caseSensitive : Bool) (place : Nat) (query : Bytes) :
    ((ofText text).walk caseSensitive (tableAt text place) query).isSome ↔
      List.SublistForall₂ (Accepts caseSensitive) query (text.drop place) := by
  induction query generalizing place with
  | nil => simp [walk, List.SublistForall₂.nil]
  | cons letter query ih =>
      rw [walk_ofText_cons, sublistForall₂_cons_iff]
      cases (text.drop place).findIdx? fun found => decide (Accepts caseSensitive letter found) with
      | none => simp
      | some offset => simp [ih, List.drop_drop, Nat.add_assoc]

end LetterIndex

namespace LetterSet

theorem getLsbD_insert {letter : UInt8} (ascii : isAscii letter) (letters : LetterSet) (bit : Nat) :
    (letters.insert letter).getLsbD bit ↔ letters.getLsbD bit ∨ (lower letter).toNat = bit := by
  have bound := toNat_lower_lt ascii
  simp only [insert, BitVec.getLsbD_or, BitVec.getLsbD_twoPow, Bool.or_eq_true, Bool.and_eq_true, decide_eq_true_eq]
  constructor
  · rintro (known | ⟨_, same⟩)
    · exact Or.inl known
    · exact Or.inr same
  · rintro (known | rfl)
    · exact Or.inl known
    · exact Or.inr ⟨bound, rfl⟩

theorem ofText_eq_error {text : Bytes} (foreign : ∃ letter ∈ text, ¬ isAscii letter) :
    ofText text = .error .outOfRange := by
  induction text with
  | nil => simp at foreign
  | cons letter rest ih =>
      unfold ofText
      split
      · rename_i ascii
        obtain ⟨other, member, notAscii⟩ := foreign
        rcases List.mem_cons.mp member with rfl | later
        · exact absurd ascii notAscii
        · rw [ih ⟨other, later, notAscii⟩]
          rfl
      · rfl

/-- Every ASCII text has a letter set, with one bit for each of its letters. -/
theorem ofText_exists {text : Bytes} (ascii : ∀ letter ∈ text, isAscii letter) :
    ∃ letters, ofText text = .ok letters ∧
      ∀ bit, letters.getLsbD bit ↔ ∃ letter ∈ text, (lower letter).toNat = bit := by
  induction text with
  | nil => exact ⟨0, rfl, by simp⟩
  | cons letter rest ih =>
      have first := ascii letter List.mem_cons_self
      obtain ⟨letters, found, bits⟩ := ih fun other member => ascii other (List.mem_cons_of_mem _ member)
      refine ⟨letters.insert letter, ?_, ?_⟩
      · simp [ofText, first, found, Except.map]
      · intro bit
        rw [getLsbD_insert first, bits]
        simp [or_comm]

theorem contains_iff (letters wanted : LetterSet) :
    letters.contains wanted ↔ ∀ bit, wanted.getLsbD bit → letters.getLsbD bit := by
  simp only [contains, beq_iff_eq]
  constructor
  · intro same bit present
    rw [← same, BitVec.getLsbD_and] at present
    exact (Bool.and_eq_true_iff.mp present).1
  · intro included
    apply BitVec.eq_of_getLsbD_eq
    intro bit _
    rw [BitVec.getLsbD_and]
    cases present : wanted.getLsbD bit with
    | false => simp
    | true => simp [included bit present]

/-- The letter set of a text has every letter of a query that embeds in the text. -/
theorem contains_of_embeds {caseSensitive : Bool} {query text : Bytes} {wanted letters : LetterSet}
    (queryAscii : ∀ letter ∈ query, isAscii letter) (textAscii : ∀ letter ∈ text, isAscii letter)
    (ofQuery : ofText query = .ok wanted) (ofCandidate : ofText text = .ok letters)
    (embeds : List.SublistForall₂ (Accepts caseSensitive) query text) : letters.contains wanted := by
  obtain ⟨_, found, wantedBits⟩ := ofText_exists queryAscii
  cases ofQuery.symm.trans found
  obtain ⟨_, found, letterBits⟩ := ofText_exists textAscii
  cases ofCandidate.symm.trans found
  rw [contains_iff]
  intro bit present
  obtain ⟨letter, member, rfl⟩ := (wantedBits bit).mp present
  obtain ⟨found, within, accepted⟩ := exists_rel_of_sublistForall₂ embeds letter member
  exact (letterBits _).mpr ⟨found, within, by rw [accepted.lower_eq]⟩

end LetterSet

end Typeahead

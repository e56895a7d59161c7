import Typeahead.Proofs.IdentifierMap
import Typeahead.Proofs.IdentifierRuns

namespace Typeahead.Identifier

/-! What becomes of identifiers when comments and quoted texts are left out. Each of these starts with a character that
no identifier has and ends at a border, so what is found in a piece that is kept is found in the whole text. But the
pieces are put together with nothing in between, and an identifier that has letters of two pieces need not be in the
text at all. Where one of the searches for the next part to leave out is given up, nothing is stored. -/

open Letter

section Pieces

variable {text after rest : Bytes}

theorem afterBlockComment_eq (found : afterBlockComment text = some after) :
    ∃ inner, text = inner ++ [star, slash] ++ after := by
  induction text with
  | nil => simp [afterBlockComment] at found
  | cons letter rest ih =>
      cases rest with
      | nil => simp [afterBlockComment] at found
      | cons next tail =>
          rw [afterBlockComment] at found
          split at found
          · rename_i closes
            cases found
            simp only [Bool.and_eq_true, beq_iff_eq] at closes
            exact ⟨[], by rw [closes.1, closes.2]; rfl⟩
          · obtain ⟨inner, same⟩ := ih found
            exact ⟨letter :: inner, by rw [same]; rfl⟩

theorem afterQuoted_eq {closing : UInt8} (found : afterQuoted closing text = some after) :
    ∃ inner, text = inner ++ [closing] ++ after := by
  fun_induction afterQuoted closing text with
  | case1 => cases found
  | case2 letter same =>
      cases found
      exact ⟨[], by rw [eq_of_beq same]; rfl⟩
  | case3 => cases found
  | case4 letter next rest same =>
      cases found
      exact ⟨[], by rw [eq_of_beq same]; rfl⟩
  | case5 letter next rest differs escaped ih =>
      obtain ⟨inner, same⟩ := ih found
      exact ⟨letter :: next :: inner, by rw [same]; rfl⟩
  | case6 letter next rest differs plain ih =>
      obtain ⟨inner, same⟩ := ih found
      exact ⟨letter :: inner, by rw [same]; rfl⟩

theorem not_isWord_of_endsLine {letter : UInt8} (ends : endsLine letter) : ¬ isWord letter := by
  simp only [endsLine, Bool.or_eq_true, beq_iff_eq] at ends
  rcases ends with (rfl | rfl) | rfl <;> decide

theorem border_line (start rest : Bytes) :
    Border (start ++ rest.takeWhile (!endsLine ·)) (rest.dropWhile (!endsLine ·)) := by
  apply border_of_next
  intro next isNext
  exact not_isWord_of_endsLine (by simpa using not_of_mem_head?_dropWhile _ rest next isNext)

/-- A comment or quoted text starts with a character that is in no word and ends at a border. -/
theorem afterIgnored?_eq {escaped : Bool} (found : afterIgnored? escaped text = some after) :
    ∃ first inner, text = first :: inner ++ after ∧ ¬ isWord first ∧ Border (first :: inner) after := by
  cases text with
  | nil => simp [afterIgnored?] at found
  | cons letter rest =>
      simp only [afterIgnored?] at found
      split at found
      · rename_i isHash
        cases found
        rw [eq_of_beq isHash]
        refine ⟨hash, rest.takeWhile (!endsLine ·), ?_, by decide, border_line [hash] rest⟩
        rw [List.cons_append, List.takeWhile_append_dropWhile]
      · split at found
        · rename_i isSlash
          rw [eq_of_beq isSlash]
          cases rest with
          | nil => cases found
          | cons next tail =>
              dsimp only at found
              split at found
              · cases found
                refine ⟨slash, next :: tail.takeWhile (!endsLine ·), ?_, by decide, border_line [slash, next] tail⟩
                rw [List.cons_append, List.cons_append, List.takeWhile_append_dropWhile]
              · split at found
                · obtain ⟨inner, rfl⟩ := afterBlockComment_eq found
                  have border : Border ((slash :: next :: inner ++ [star]) ++ [slash]) after :=
                    border_concat _ (by decide)
                  exact ⟨slash, next :: (inner ++ [star, slash]), by simp, by decide, by simpa using border⟩
                · cases found
        · split at found
          · rename_i isQuote
            have opens : ¬ isWord letter := by
              simp only [Bool.and_eq_true, Bool.or_eq_true, beq_iff_eq] at isQuote
              rcases isQuote.1 with rfl | rfl <;> decide
            obtain ⟨inner, rfl⟩ := afterQuoted_eq found
            exact ⟨letter, inner ++ [letter], rfl, opens, border_concat (letter :: inner) opens⟩
          · cases found

/-- The pieces of a text between the comments and quoted texts that are left out, in their order. -/
def keptAfter (escaped : Bool) (text : Bytes) : List Bytes :=
  match found : afterIgnored? escaped text with
  | some after =>
    have := length_afterIgnored? found
    [] :: keptAfter false after
  | none =>
    match text with
    | [] => [[]]
    | letter :: rest => (keptAfter (letter == backslash) rest).modifyHead (letter :: ·)
termination_by text.length

def kept (text : Bytes) : List Bytes := keptAfter false text

/-- A text falls into pieces with something left out between them: it starts with a character that is in no word and
ends where no word goes on. -/
inductive Cut : Bytes → List Bytes → Prop where
  | last (piece : Bytes) : Cut piece [piece]
  | ignore {first : UInt8} {inner rest : Bytes} {pieces : List Bytes} (piece : Bytes) (opens : ¬ isWord first)
      (border : Border (first :: inner) rest) (more : Cut rest pieces) :
      Cut (piece ++ (first :: inner ++ rest)) (piece :: pieces)

theorem Cut.cons {pieces : List Bytes} (letter : UInt8) (cut : Cut text pieces) :
    Cut (letter :: text) (pieces.modifyHead (letter :: ·)) := by
  cases cut with
  | last => exact .last (letter :: text)
  | ignore piece opens border more => exact .ignore (letter :: piece) opens border more

theorem cut_keptAfter (escaped : Bool) (text : Bytes) : Cut text (keptAfter escaped text) := by
  fun_induction keptAfter escaped text with
  | case1 escaped text after found shorter ih =>
      obtain ⟨first, inner, rfl, opens, border⟩ := afterIgnored?_eq found
      exact .ignore [] opens border ih
  | case2 => exact .last []
  | case3 escaped letter rest found ih => exact ih.cons letter

theorem Cut.ne_nil {pieces : List Bytes} (cut : Cut text pieces) : pieces ≠ [] := by
  cases cut <;> simp

theorem keptAfter_of_ignored {escaped : Bool} (found : afterIgnored? escaped text = some after) :
    keptAfter escaped text = [] :: keptAfter false after := by
  rw [keptAfter]
  split
  · rename_i same
    rw [found] at same
    cases same
    rfl
  · rename_i absent
    rw [found] at absent
    cases absent

theorem keptAfter_cons {escaped : Bool} {letter : UInt8} (absent : afterIgnored? escaped (letter :: rest) = none) :
    keptAfter escaped (letter :: rest) = (keptAfter (letter == backslash) rest).modifyHead (letter :: ·) := by
  rw [keptAfter]
  split
  · rename_i found
    rw [absent] at found
    cases found
  · rfl

/-- What follows each of the parts that are left out. A search starts afresh with it. -/
def restartsAfter (escaped : Bool) (text : Bytes) : List Bytes :=
  match found : afterIgnored? escaped text with
  | some after =>
    have := length_afterIgnored? found
    after :: restartsAfter false after
  | none =>
    match text with
    | [] => []
    | letter :: rest => restartsAfter (letter == backslash) rest
termination_by text.length

/-- The texts that searches start with. -/
def searched (text : Bytes) : List Bytes := text :: restartsAfter false text

theorem restartsAfter_of_ignored {escaped : Bool} (found : afterIgnored? escaped text = some after) :
    restartsAfter escaped text = after :: restartsAfter false after := by
  rw [restartsAfter]
  split
  · rename_i same
    rw [found] at same
    cases same
    rfl
  · rename_i absent
    rw [found] at absent
    cases absent

theorem restartsAfter_cons {escaped : Bool} {letter : UInt8} (absent : afterIgnored? escaped (letter :: rest) = none) :
    restartsAfter escaped (letter :: rest) = restartsAfter (letter == backslash) rest := by
  rw [restartsAfter]
  split
  · rename_i found
    rw [absent] at found
    cases found
  · rfl

/-- The pieces are put together unless a search is given up after one of the parts. -/
theorem removeIgnoredAfter_eq (givesUp : Bytes → Bool) (escaped : Bool) (text : Bytes) :
    removeIgnoredAfter givesUp escaped text =
      if (restartsAfter escaped text).any givesUp then .error givenUp else .ok (keptAfter escaped text).flatten := by
  fun_induction removeIgnoredAfter givesUp escaped text with
  | case1 escaped text after found shorter up => simp [restartsAfter_of_ignored found, up]
  | case2 escaped text after found shorter up ih =>
      rw [ih, restartsAfter_of_ignored found, keptAfter_of_ignored found, List.any_cons,
        Bool.eq_false_of_not_eq_true up, Bool.false_or, List.flatten_cons, List.nil_append]
  | case3 => rw [restartsAfter, keptAfter]; rfl
  | case4 escaped letter rest absent ih =>
      obtain ⟨piece, pieces, same⟩ := List.exists_cons_of_ne_nil (cut_keptAfter (letter == backslash) rest).ne_nil
      rw [ih, restartsAfter_cons absent, keptAfter_cons absent, same]
      split
      · rfl
      · rfl

theorem removeIgnored_eq (givesUp : Bytes → Bool) (text : Bytes) :
    removeIgnored givesUp text =
      if (searched text).any givesUp then .error givenUp else .ok (kept text).flatten := by
  rw [removeIgnored, removeIgnoredAfter_eq, searched, List.any_cons, kept]
  cases givesUp text with
  | true => rfl
  | false => rfl

/-- What is found in the pieces that are kept is found in the text, in the same order. -/
theorem Cut.flatMap_extract_sublist {pieces : List Bytes} (cut : Cut text pieces) :
    (pieces.flatMap extract).Sublist (extract text) := by
  induction cut with
  | last piece => simp
  | @ignore first inner rest pieces piece opens border _ ih =>
      have opening : Border piece (first :: inner ++ rest) := by
        apply border_of_next
        rintro next ⟨⟩
        exact opens
      rw [List.flatMap_cons, extract_append opening, extract_append border]
      exact (List.Sublist.refl _).append (ih.trans (List.sublist_append_right _ _))

end Pieces

section Occurrences

variable {before word after text : Bytes}

/-- A word that is an identifier where it stands: it starts as one does, of its run only digits come before it, and the
run ends with it. -/
structure Stands (before word after : Bytes) : Prop where
  starts : ∃ first tail, word = first :: tail ∧ startsIdentifier first
  word : ∀ letter ∈ word, isWord letter
  digits : ∃ front leading, before = front ++ leading ∧ (∀ letter ∈ leading, isDigit letter) ∧
    ∀ last ∈ front.getLast?, ¬ isWord last
  closes : ∀ next ∈ after.head?, ¬ isWord next

namespace Stands

theorem ne_nil (stands : Stands before word after) : word ≠ [] := by
  obtain ⟨first, tail, rfl, _⟩ := stands.starts
  exact List.cons_ne_nil first tail

theorem of_less {left right : Bytes} (stands : Stands before word after) (isLeft : left <:+ before)
    (isRight : right <+: after) : Stands left word right where
  starts := stands.starts
  word := stands.word
  digits := by
    obtain ⟨front, leading, rfl, digits, opens⟩ := stands.digits
    obtain ⟨more, same⟩ := isLeft
    rcases List.append_eq_append_iff.mp same with ⟨gap, rfl, rfl⟩ | ⟨gap, rfl, rfl⟩
    · refine ⟨gap, leading, rfl, digits, fun last isLast => ?_⟩
      exact opens last (List.mem_getLast?_append_of_mem_getLast? isLast)
    · -- nothing but leading digits is left before it
      refine ⟨[], left, rfl, fun letter member => digits letter (List.mem_append_right gap member), ?_⟩
      intro last isLast
      cases isLast
  closes := by
    obtain ⟨more, rfl⟩ := isRight
    exact fun next isNext => stands.closes next (List.mem_head?_append_of_mem_head? isNext)

theorem mem_extract (stands : Stands before word after) : word ∈ extract (before ++ word ++ after) := by
  obtain ⟨first, tail, rfl, starts⟩ := stands.starts
  obtain ⟨front, leading, rfl, digits, opens⟩ := stands.digits
  have notDigit := ((startsIdentifier_iff first).mp starts).2
  have run : ∀ letter ∈ leading ++ first :: tail, isWord letter := by
    intro letter member
    rcases List.mem_append.mp member with inLeading | inWord
    · simp [isWord, digits letter inLeading]
    · exact stands.word letter inWord
  have found : extract (leading ++ first :: tail) = [first :: tail] := by
    rw [extract_run run, List.dropWhile_append_of_pos digits, List.dropWhile_cons_of_neg notDigit]
    rfl
  have regrouped : front ++ leading ++ (first :: tail) ++ after = front ++ ((leading ++ first :: tail) ++ after) := by
    simp
  rw [regrouped, extract_append (border_of_last opens), extract_append (border_of_next stands.closes), found]
  simp

end Stands

theorem exists_stands_of_mem_extract (found : word ∈ extract text) :
    ∃ before after, text = before ++ word ++ after ∧ Stands before word after := by
  obtain ⟨runs, lists, same⟩ := exists_listsRuns text
  rw [same, List.mem_filter, List.mem_map] at found
  obtain ⟨⟨part, member, rfl⟩, nonempty⟩ := found
  have run := (lists.mem_iff part).mp member
  have letters : part.letters.takeWhile isDigit ++ part.identifier = part.letters := List.takeWhile_append_dropWhile
  have inRun : part.identifier ⊆ part.letters := (List.dropWhile_sublist isDigit).subset
  refine ⟨part.before ++ part.letters.takeWhile isDigit, part.after, ?_, ?_⟩
  · rw [List.append_assoc part.before, letters, run.whole]
  · obtain ⟨first, tail, isCons⟩ := List.exists_cons_of_ne_nil (of_decide_eq_true nonempty)
    have isFirst : part.identifier.head? = some first := by
      rw [isCons]
      rfl
    have notDigit : ¬ isDigit first := not_of_mem_head?_dropWhile isDigit part.letters first isFirst
    have wordFirst := run.word first (inRun (List.mem_of_head? isFirst))
    refine ⟨⟨first, tail, isCons, (startsIdentifier_iff first).mpr ⟨wordFirst, notDigit⟩⟩, ?_, ?_, run.closes⟩
    · exact fun letter member => run.word letter (inRun member)
    · exact ⟨part.before, _, rfl, fun letter => List.mem_takeWhile_imp, run.opens⟩

end Occurrences

section Joined

variable {pieces : List Bytes} {before word after : Bytes}

/-- A word of the pieces put together, at the place given, that lies in one of them. -/
def InPiece (pieces : List Bytes) (before word after : Bytes) : Prop :=
  ∃ piece ∈ pieces, ∃ left right, piece = left ++ word ++ right ∧ left <:+ before ∧ right <+: after

/-- A word of the pieces put together, at the place given, that has letters on both sides of a cut. -/
def AcrossCut (pieces : List Bytes) (before word after : Bytes) : Prop :=
  ∃ front back first second, pieces = front ++ back ∧ front.flatten = before ++ first ∧ back.flatten = second ++ after ∧
    word = first ++ second ∧ first ≠ [] ∧ second ≠ []

theorem InPiece.cons (inPiece : InPiece pieces before word after) (piece : Bytes) :
    InPiece (piece :: pieces) (piece ++ before) word after := by
  obtain ⟨inner, member, left, right, same, isLeft, isRight⟩ := inPiece
  have inBefore := isLeft.trans (List.suffix_append piece before)
  exact ⟨inner, List.mem_cons_of_mem piece member, left, right, same, inBefore, isRight⟩

theorem AcrossCut.cons (across : AcrossCut pieces before word after) (piece : Bytes) :
    AcrossCut (piece :: pieces) (piece ++ before) word after := by
  obtain ⟨front, back, first, second, rfl, isFront, rest⟩ := across
  refine ⟨piece :: front, back, first, second, rfl, ?_, rest⟩
  rw [List.flatten_cons, isFront, List.append_assoc]

theorem inPiece_or_acrossCut (nonempty : word ≠ []) (whole : pieces.flatten = before ++ word ++ after) :
    InPiece pieces before word after ∨ AcrossCut pieces before word after := by
  induction pieces generalizing before with
  | nil => simp [nonempty] at whole
  | cons piece pieces ih =>
      have later : ∀ gap, before = piece ++ gap → pieces.flatten = gap ++ word ++ after →
          InPiece (piece :: pieces) before word after ∨ AcrossCut (piece :: pieces) before word after := by
        rintro gap rfl isRest
        exact (ih isRest).imp (InPiece.cons · piece) (AcrossCut.cons · piece)
      rw [List.flatten_cons] at whole
      -- where the first piece ends: behind the word, in it, or before it
      rcases List.append_eq_append_iff.mp whole with ⟨gap, isWhole, isRest⟩ | ⟨gap, isPiece, isAfter⟩
      · rcases List.append_eq_append_iff.mp isWhole with ⟨first, isPiece, isWord⟩ | ⟨covered, isBefore, isOver⟩
        · by_cases noneBefore : first = []
          · refine later [] (by simp [isPiece, noneBefore]) ?_
            rw [isRest, isWord, noneBefore]
            simp
          · by_cases noneAfter : gap = []
            · rw [noneAfter, List.append_nil] at isWord
              refine Or.inl ⟨piece, List.mem_cons_self, before, [], ?_, List.suffix_refl before, List.nil_prefix⟩
              rw [isPiece, isWord, List.append_nil]
            · exact Or.inr ⟨[piece], pieces, first, gap, rfl, by simp [isPiece], isRest, isWord, noneBefore, noneAfter⟩
        · exact later covered isBefore (by rw [isRest, isOver])
      · exact Or.inl ⟨piece, List.mem_cons_self, before, gap, isPiece, List.suffix_refl before, ⟨_, isAfter.symm⟩⟩

/-- An identifier of the pieces put together that has letters on both sides of a cut. -/
def Joined (pieces : List Bytes) (word : Bytes) : Prop :=
  ∃ before after, AcrossCut pieces before word after ∧ Stands before word after

theorem Joined.mem_extract (joined : Joined pieces word) : word ∈ extract pieces.flatten := by
  obtain ⟨before, after, ⟨front, back, first, second, rfl, isFront, isBack, rfl, _⟩, stands⟩ := joined
  have whole : (front ++ back).flatten = before ++ (first ++ second) ++ after := by
    rw [List.flatten_append, isFront, isBack]
    simp
  rw [whole]
  exact stands.mem_extract

theorem mem_flatMap_or_joined (found : word ∈ extract pieces.flatten) :
    word ∈ pieces.flatMap extract ∨ Joined pieces word := by
  obtain ⟨before, after, whole, stands⟩ := exists_stands_of_mem_extract found
  rcases inPiece_or_acrossCut stands.ne_nil whole with ⟨piece, member, left, right, rfl, isLeft, isRight⟩ | across
  · exact Or.inl (List.mem_flatMap.mpr ⟨_, member, (stands.of_less isLeft isRight).mem_extract⟩)
  · exact Or.inr ⟨before, after, across, stands⟩

end Joined

theorem isPrintable_of_isWord {letter : UInt8} (word : isWord letter) : isPrintable letter := by
  simp only [isWord, isAlpha, isUpper, isLower, isDigit, underscore, isPrintable, Bool.or_eq_true, Bool.and_eq_true,
    decide_eq_true_eq, beq_iff_eq, UInt8.le_iff_toNat_le, ← UInt8.toNat_inj, UInt8.toNat_ofNat] at word ⊢
  omega

/-- What a buffer contributes is stored as it is: word characters can all be printed. -/
theorem Database.mem_textsAt_add_extract (database : Database) (source : Source) (text word : Bytes) :
    word ∈ ((database.clear source).add source (extract text)).textsAt source ↔ word ∈ extract text := by
  have unchanged : ∀ found ∈ extract text, Candidate.shown found = found := by
    intro found member
    obtain ⟨_, _, _, stands⟩ := exists_stands_of_mem_extract member
    exact Candidate.shown_eq fun letter inWord => isPrintable_of_isWord (stands.word letter inWord)
  have emptied : (database.clear source).candidatesAt source = [] := by
    rw [clear, candidatesAt_onFile, if_pos rfl]
  rw [mem_textsAt, candidatesAt_add, if_pos rfl, emptied]
  simp only [mem_foldl_insertNew, List.not_mem_nil, false_or]
  refine (Repository.exists_mem_internAll_iff (database.clear source).repository (extract text) word).trans ?_
  constructor
  · rintro ⟨one, member, rfl⟩
    rwa [unchanged one member]
  · intro member
    exact ⟨word, member, (unchanged word member).symm⟩

theorem Database.textsAt_clear (database : Database) (source : Source) :
    (database.clear source).textsAt source = [] := by
  rw [textsAt, clear, candidatesAt_onFile, if_pos rfl, List.filterMap_nil]

/-- When comments and quoted texts are left out of a buffer, the pieces between them are put together and their
identifiers stored; where one of the searches is given up, reading the buffer fails and its file has no identifiers any
more. Otherwise all that is stored are identifiers of the buffer if and only if those are that have letters on both
sides of something left out. -/
theorem stored_in_text_iff_joined_in_text (givesUp : Bytes → Bool) (database : Database) (source : Source)
    (text : Bytes) :
    let read := (Database.addBuffer givesUp source text false).run.run database
    Cut text (kept text) ∧
    ((∃ rest ∈ searched text, givesUp rest) → read.1 = .error givenUp ∧ read.2.textsAt source = []) ∧
    ((∀ rest ∈ searched text, ¬ givesUp rest) → removeIgnored givesUp text = .ok (kept text).flatten ∧
      read.1 = .ok () ∧ ∀ word, word ∈ read.2.textsAt source ↔ word ∈ extract (kept text).flatten) ∧
    ((∀ word ∈ read.2.textsAt source, word ∈ extract text) ↔
      (∃ rest ∈ searched text, givesUp rest) ∨ ∀ word, Joined (kept text) word → word ∈ extract text) := by
  intro read
  have cut : Cut text (kept text) := cut_keptAfter false text
  have isRead := Database.run_addBuffer givesUp source text false database
  have removed := removeIgnored_eq givesUp text
  by_cases up : ∃ rest ∈ searched text, givesUp rest
  · have given : ofBuffer givesUp false text = .error givenUp := by
      rw [ofBuffer, removed, if_pos (List.any_eq_true.mpr up)]
      rfl
    rw [given] at isRead
    have nothing : read.2.textsAt source = [] := by
      rw [show read = _ from isRead]
      exact database.textsAt_clear source
    refine ⟨cut, fun _ => ⟨congrArg (·.1) isRead, nothing⟩, ?_, ?_⟩
    · intro none
      obtain ⟨rest, listed, isUp⟩ := up
      exact absurd isUp (none rest listed)
    · rw [nothing]
      simp [up]
  · have together : removeIgnored givesUp text = .ok (kept text).flatten := by
      rw [removed, if_neg fun any => up (List.any_eq_true.mp any)]
    have found : ofBuffer givesUp false text = .ok (extract (kept text).flatten) := by
      rw [ofBuffer, together]
      rfl
    rw [found] at isRead
    have stored : ∀ word, word ∈ read.2.textsAt source ↔ word ∈ extract (kept text).flatten := by
      intro word
      rw [show read = _ from isRead]
      exact database.mem_textsAt_add_extract source _ word
    refine ⟨cut, fun any => absurd any up, fun _ => ⟨together, congrArg (·.1) isRead, stored⟩, ?_⟩
    rw [or_iff_right up]
    constructor
    · intro inText word joined
      exact inText word ((stored word).mpr joined.mem_extract)
    · intro inText word isStored
      rcases mem_flatMap_or_joined ((stored word).mp isStored) with inPiece | joined
      · exact cut.flatMap_extract_sublist.subset inPiece
      · exact inText word joined

/-- A comment inside a word leaves a longer word behind, which the buffer does not have. -/
theorem stored_not_in_text :
    let text := Bytes.ofString "foo/**/bar"
    let source : Source := ⟨Bytes.ofString "cpp", Bytes.ofString "/f"⟩
    let read := (Database.addBuffer Search.givesUp source text false).run.run {}
    read.1.toOption = some () ∧ Bytes.ofString "foobar" ∈ read.2.textsAt source ∧
      Bytes.ofString "foobar" ∉ extract text := by
  decide +kernel

end Typeahead.Identifier

import Mathlib.Data.List.Basic
import Mathlib.Data.List.Induction
import Mathlib.Data.List.TakeWhile
import Typeahead.Identifier.Scan

namespace Typeahead.Identifier

/-! The identifiers of a text and its runs of word characters. A text may be cut wherever no run goes on: the runs of
both sides, and what is found in them, then make up those of the whole. Between such cuts there are single other
characters and whole runs, and in a run the identifier is what its leading digits leave over. -/

open Letter

variable {front rest text letters : Bytes} {letter : UInt8}

/-- No run of word characters goes on from one text into the other. -/
def Border (front rest : Bytes) : Prop :=
  ∀ last ∈ front.getLast?, ∀ next ∈ rest.head?, isWord last → ¬ isWord next

theorem border_of_last (ends : ∀ last ∈ front.getLast?, ¬ isWord last) : Border front rest :=
  fun last isLast _ _ word => absurd word (ends last isLast)

theorem border_of_next (starts : ∀ next ∈ rest.head?, ¬ isWord next) : Border front rest :=
  fun _ _ next isNext _ => starts next isNext

theorem border_concat (front : Bytes) (other : ¬ isWord letter) : Border (front ++ [letter]) rest := by
  apply border_of_last
  intro last isLast
  rw [List.getLast?_concat] at isLast
  cases isLast
  exact other

theorem Border.of_append {first second : Bytes} (border : Border (first ++ second) rest) : Border second rest :=
  fun last isLast => border last (List.mem_getLast?_append_of_mem_getLast? isLast)

theorem not_of_mem_head?_dropWhile (test : UInt8 → Bool) (text : Bytes) :
    ∀ next ∈ (text.dropWhile test).head?, ¬ test next := by
  intro next isNext
  have stops := List.head?_dropWhile_not test text
  rw [Option.mem_def.mp isNext] at stops
  simpa using stops

/-- Every text is put together, at borders, from single other characters and runs of word characters. -/
theorem border_induction {property : Bytes → Prop} (empty : property [])
    (other : ∀ letter, ¬ isWord letter → property [letter])
    (run : ∀ letters, letters ≠ [] → (∀ letter ∈ letters, isWord letter) → property letters)
    (append : ∀ front rest, Border front rest → property front → property rest → property (front ++ rest))
    (text : Bytes) : property text := by
  match text with
  | [] => exact empty
  | letter :: rest =>
      by_cases word : isWord letter
      · have shorter : (rest.dropWhile isWord).length ≤ rest.length := (List.dropWhile_sublist isWord).length_le
        have here : property (letter :: rest.takeWhile isWord) := by
          refine run _ (List.cons_ne_nil _ _) fun other member => ?_
          rcases List.mem_cons.mp member with rfl | later
          · exact word
          · exact List.mem_takeWhile_imp later
        have after := border_induction empty other run append (rest.dropWhile isWord)
        have whole := append _ _ (border_of_next (not_of_mem_head?_dropWhile isWord rest)) here after
        rwa [List.cons_append, List.takeWhile_append_dropWhile] at whole
      · exact append [letter] rest (border_concat [] word) (other letter word)
          (border_induction empty other run append rest)
termination_by text.length
decreasing_by
  · simp only [List.length_cons]
    omega
  · simp

theorem startsIdentifier_iff (letter : UInt8) : startsIdentifier letter ↔ isWord letter ∧ ¬ isDigit letter := by
  simp only [startsIdentifier, isWord, isAlpha, isUpper, isLower, isDigit, underscore, Bool.or_eq_true,
    Bool.and_eq_true, decide_eq_true_eq, beq_iff_eq, UInt8.le_iff_toNat_le, ← UInt8.toNat_inj, UInt8.toNat_ofNat]
  omega

theorem takeWhile_dropWhile_run (word : ∀ letter ∈ letters, isWord letter)
    (stops : ∀ next ∈ rest.head?, ¬ isWord next) :
    (letters ++ rest).takeWhile isWord = letters ∧ (letters ++ rest).dropWhile isWord = rest := by
  rw [List.takeWhile_append_of_pos word, List.dropWhile_append_of_pos word]
  cases rest with
  | nil => simp
  | cons next rest => simp [stops next rfl]

theorem extract_run_append (starts : startsIdentifier letter) (word : ∀ letter ∈ letters, isWord letter)
    (stops : ∀ next ∈ rest.head?, ¬ isWord next) :
    extract (letter :: (letters ++ rest)) = (letter :: letters) :: extract rest := by
  obtain ⟨taken, left⟩ := takeWhile_dropWhile_run word stops
  rw [extract, if_pos starts, taken, left]

theorem extract_cons_of_not_starts (other : ¬ startsIdentifier letter) (rest : Bytes) :
    extract (letter :: rest) = extract rest := by
  rw [extract, if_neg other]

/-- At a border, what is found in a text is what is found in its two parts. -/
theorem extract_append (border : Border front rest) : extract (front ++ rest) = extract front ++ extract rest := by
  fun_induction extract front with
  | case1 => rfl
  | case2 letter tail starts ih =>
      have word : ∀ letter ∈ tail.takeWhile isWord, isWord letter := fun letter => List.mem_takeWhile_imp
      have left := not_of_mem_head?_dropWhile isWord tail
      have cut : letter :: tail = letter :: tail.takeWhile isWord ++ tail.dropWhile isWord := by
        rw [List.cons_append, List.takeWhile_append_dropWhile]
      rw [cut] at border ⊢
      generalize tail.takeWhile isWord = letters at word border
      generalize tail.dropWhile isWord = after at ih left border
      -- where the run reaches the border, it is the border that ends it
      have stops : ∀ next ∈ (after ++ rest).head?, ¬ isWord next := by
        cases after with
        | cons next after => exact left
        | nil =>
            rw [List.append_nil] at border
            intro next isNext
            refine border _ (List.getLast?_eq_some_getLast (List.cons_ne_nil letter letters)) next isNext ?_
            rcases List.mem_cons.mp (List.getLast_mem (List.cons_ne_nil letter letters)) with same | later
            · rw [same]
              exact ((startsIdentifier_iff letter).mp starts).1
            · exact word _ later
      rw [List.append_assoc, List.cons_append, extract_run_append starts word stops, ih border.of_append]
      rfl
  | case3 letter tail other ih =>
      rw [List.cons_append, extract_cons_of_not_starts other]
      have tailBorder : Border ([letter] ++ tail) rest := border
      exact ih tailBorder.of_append

theorem extract_run (word : ∀ letter ∈ letters, isWord letter) :
    extract letters = [letters.dropWhile isDigit].filter (· ≠ []) := by
  induction letters with
  | nil => simp [extract]
  | cons letter rest ih =>
      obtain ⟨first, later⟩ := List.forall_mem_cons.mp word
      by_cases starts : startsIdentifier letter
      · have notDigit := ((startsIdentifier_iff letter).mp starts).2
        have found : extract (letter :: (rest ++ [])) = (letter :: rest) :: extract [] :=
          extract_run_append starts later (by simp)
        rw [List.append_nil] at found
        rw [found, List.dropWhile_cons_of_neg notDigit]
        simp [extract]
      · -- a word character that starts no identifier is a leading digit
        have digit : isDigit letter := by
          by_contra notDigit
          exact starts ((startsIdentifier_iff letter).mpr ⟨first, notDigit⟩)
        rw [extract_cons_of_not_starts starts, ih later, List.dropWhile_cons_of_pos digit]

theorem extract_other (other : ¬ isWord letter) : extract [letter] = [] := by
  rw [extract_cons_of_not_starts fun starts => other ((startsIdentifier_iff letter).mp starts).1, extract]

/-- Letters of a text, with what stands before and after them. -/
structure Part where
  before : Bytes
  letters : Bytes
  after : Bytes

namespace Part

variable {part : Part}

/-- A run of word characters that goes on neither to the left nor to the right. -/
structure IsRun (part : Part) (text : Bytes) : Prop where
  whole : part.before ++ part.letters ++ part.after = text
  nonempty : part.letters ≠ []
  word : ∀ letter ∈ part.letters, isWord letter
  opens : ∀ last ∈ part.before.getLast?, ¬ isWord last
  closes : ∀ next ∈ part.after.head?, ¬ isWord next

def identifier (part : Part) : Bytes := part.letters.dropWhile isDigit

def widenLeft (front : Bytes) (part : Part) : Part := { part with before := front ++ part.before }

def widenRight (rest : Bytes) (part : Part) : Part := { part with after := part.after ++ rest }

theorem IsRun.widenRight (run : part.IsRun front) (border : Border front rest) :
    (part.widenRight rest).IsRun (front ++ rest) := by
  obtain ⟨rfl, nonempty, word, opens, closes⟩ := run
  refine ⟨by simp [Part.widenRight], nonempty, word, opens, fun next isNext => ?_⟩
  obtain ⟨before, letters, after⟩ := part
  cases after with
  | cons first after => exact closes next isNext
  | nil =>
      refine border _ ?_ next isNext (word _ (List.getLast_mem nonempty))
      rw [List.append_nil, List.getLast?_append, List.getLast?_eq_some_getLast nonempty]
      rfl

theorem IsRun.widenLeft (run : part.IsRun rest) (border : Border front rest) :
    (part.widenLeft front).IsRun (front ++ rest) := by
  obtain ⟨rfl, nonempty, word, opens, closes⟩ := run
  refine ⟨by simp [Part.widenLeft], nonempty, word, fun last isLast => ?_, closes⟩
  obtain ⟨before, letters, after⟩ := part
  cases before using List.reverseRecOn with
  | append_singleton before own =>
      rw [Part.widenLeft, ← List.append_assoc, List.getLast?_concat] at isLast
      exact opens last (by rw [List.getLast?_concat]; exact isLast)
  | nil =>
      rw [Part.widenLeft, List.append_nil] at isLast
      refine fun wordLast => border last isLast _ ?_ wordLast (word _ (List.head_mem nonempty))
      rw [List.nil_append, List.head?_append, List.head?_eq_some_head nonempty]
      rfl

/-- A run lies on one side of a border. -/
theorem IsRun.of_append (run : part.IsRun (front ++ rest)) (border : Border front rest) :
    (∃ left : Part, left.IsRun front ∧ left.widenRight rest = part) ∨
      ∃ right : Part, right.IsRun rest ∧ right.widenLeft front = part := by
  obtain ⟨before, letters, after⟩ := part
  have inFront : ∀ gap, front = before ++ letters ++ gap → after = gap ++ rest →
      ∃ left : Part, left.IsRun front ∧ left.widenRight rest = ⟨before, letters, after⟩ := by
    rintro gap rfl rfl
    refine ⟨⟨before, letters, gap⟩, ⟨rfl, run.nonempty, run.word, run.opens, fun next isNext => ?_⟩, rfl⟩
    exact run.closes next (List.mem_head?_append_of_mem_head? isNext)
  have inRest : ∀ gap, before = front ++ gap → rest = gap ++ letters ++ after →
      ∃ right : Part, right.IsRun rest ∧ right.widenLeft front = ⟨before, letters, after⟩ := by
    rintro gap rfl rfl
    refine ⟨⟨gap, letters, after⟩, ⟨rfl, run.nonempty, run.word, fun last isLast => ?_, run.closes⟩, rfl⟩
    exact run.opens last (List.mem_getLast?_append_of_mem_getLast? isLast)
  rcases List.append_eq_append_iff.mp run.whole with ⟨gap, isFront, isAfter⟩ | ⟨gap, isLeft, isRest⟩
  · exact Or.inl (inFront gap isFront isAfter)
  · rcases List.append_eq_append_iff.mp isLeft with ⟨first, isFront, isLetters⟩ | ⟨between, isBefore, isOver⟩
    · -- the run would have letters on both sides, unless one of the two parts is empty
      dsimp only at isFront isLetters
      subst isFront isLetters isRest
      cases gap with
      | nil => exact Or.inl (inFront [] (by simp) rfl)
      | cons next gap =>
          cases first using List.reverseRecOn with
          | nil => exact Or.inr (inRest [] (by simp) rfl)
          | append_singleton first last =>
              have wordLast := run.word last (by simp)
              have wordNext := run.word next (by simp)
              exact absurd wordNext (border last (by simp) next rfl wordLast)
    · exact Or.inr (inRest between isBefore (by rw [isRest, isOver]))

end Part

/-- All runs of a text, in the order in which they stand in it. -/
structure ListsRuns (runs : List Part) (text : Bytes) : Prop where
  ordered : runs.Pairwise fun first second => first.before.length < second.before.length
  mem_iff : ∀ part, part ∈ runs ↔ part.IsRun text

namespace ListsRuns

theorem none (others : ∀ letter ∈ text, ¬ isWord letter) : ListsRuns [] text := by
  refine ⟨.nil, fun part => ⟨nofun, fun run => ?_⟩⟩
  obtain ⟨letter, member⟩ := List.exists_mem_of_ne_nil _ run.nonempty
  have inText : letter ∈ text := by
    rw [← run.whole]
    simp [member]
  exact absurd (run.word letter member) (others letter inText)

theorem run (nonempty : letters ≠ []) (word : ∀ letter ∈ letters, isWord letter) :
    ListsRuns [⟨[], letters, []⟩] letters := by
  refine ⟨List.pairwise_singleton _ _, fun part => ?_⟩
  rw [List.mem_singleton]
  constructor
  · rintro rfl
    exact ⟨by simp, nonempty, word, nofun, nofun⟩
  · intro run
    obtain ⟨before, inner, after⟩ := part
    have noneBefore : before = [] := by
      cases before using List.reverseRecOn with
      | nil => rfl
      | append_singleton before last =>
          exact absurd (word last (by simp [← run.whole])) (run.opens last (List.getLast?_concat ..))
    have noneAfter : after = [] := by
      cases after with
      | nil => rfl
      | cons next after => exact absurd (word next (by simp [← run.whole])) (run.closes next rfl)
    have isInner : inner = letters := by simpa [noneBefore, noneAfter] using run.whole
    rw [noneBefore, noneAfter, isInner]

theorem append {left right : List Part} (inFront : ListsRuns left front) (inRest : ListsRuns right rest)
    (border : Border front rest) :
    ListsRuns (left.map (Part.widenRight rest) ++ right.map (Part.widenLeft front)) (front ++ rest) := by
  constructor
  · refine List.pairwise_append.mpr ⟨List.pairwise_map.mpr inFront.ordered, List.pairwise_map.mpr ?_, ?_⟩
    · exact inRest.ordered.imp fun earlier => by simpa [Part.widenLeft] using earlier
    · intro first firstMember second secondMember
      obtain ⟨inner, member, rfl⟩ := List.mem_map.mp firstMember
      obtain ⟨outer, _, rfl⟩ := List.mem_map.mp secondMember
      have run := (inFront.mem_iff inner).mp member
      have length := congrArg List.length run.whole
      have some := List.length_pos_iff.mpr run.nonempty
      simp only [List.length_append] at length
      simp only [Part.widenRight, Part.widenLeft, List.length_append]
      omega
  · intro part
    simp only [List.mem_append, List.mem_map, inFront.mem_iff, inRest.mem_iff]
    constructor
    · rintro (⟨inner, run, rfl⟩ | ⟨inner, run, rfl⟩)
      · exact run.widenRight border
      · exact run.widenLeft border
    · intro run
      exact run.of_append border

end ListsRuns

theorem exists_listsRuns (text : Bytes) :
    ∃ runs, ListsRuns runs text ∧ extract text = (runs.map Part.identifier).filter (· ≠ []) := by
  induction text using border_induction with
  | empty => exact ⟨[], .none nofun, by simp [extract]⟩
  | other letter other => exact ⟨[], .none (by simpa using other), extract_other other⟩
  | run letters nonempty word => exact ⟨_, .run nonempty word, extract_run word⟩
  | append front rest border inFront inRest =>
      obtain ⟨left, listsLeft, foundLeft⟩ := inFront
      obtain ⟨right, listsRight, foundRight⟩ := inRest
      refine ⟨_, listsLeft.append listsRight border, ?_⟩
      rw [extract_append border, foundLeft, foundRight, List.map_append, List.filter_append, List.map_map, List.map_map]
      rfl

/-- The word characters: digits, letters of both cases and the underscore. -/
def wordLetters : Bytes := Bytes.ofString "0123456789ABCDEFGHIJKLMNOPQRSTUVWXYZ_abcdefghijklmnopqrstuvwxyz"

theorem isWord_iff_mem_wordLetters (letter : UInt8) : isWord letter ↔ letter ∈ wordLetters := by
  have filtered : wordLetters = ((List.range 256).map UInt8.ofNat).filter isWord := by decide +kernel
  have listed : letter ∈ (List.range 256).map UInt8.ofNat :=
    List.mem_map.mpr ⟨letter.toNat, List.mem_range.mpr letter.toNat_lt, UInt8.ofNat_toNat⟩
  rw [filtered, List.mem_filter]
  exact (and_iff_right listed).symm

/-- A text is scanned for what the leading digits of its runs of word characters leave over. The runs are all those
that go on neither to the left nor to the right, in the order in which they stand in the text; where nothing but
digits is in a run, nothing is found. -/
theorem extract_maximal_runs (text : Bytes) :
    ∃ runs : List Part,
      runs.Pairwise (fun first second => first.before.length < second.before.length) ∧
      (∀ part : Part, part ∈ runs ↔ part.IsRun text) ∧
      extract text = (runs.map Part.identifier).filter (· ≠ []) ∧
      ∀ letter, isWord letter ↔ letter ∈ wordLetters := by
  obtain ⟨runs, lists, found⟩ := exists_listsRuns text
  exact ⟨runs, lists.ordered, lists.mem_iff, found, isWord_iff_mem_wordLetters⟩

example : extract (Bytes.ofString "12ab 7 x_1-9y") = ["ab", "x_1", "y"].map Bytes.ofString := by decide +kernel

end Typeahead.Identifier

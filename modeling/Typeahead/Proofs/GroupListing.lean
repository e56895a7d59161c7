import Mathlib.Data.List.Forall2
import Typeahead.Highlight.Group
import Typeahead.Proofs.TextPieces

namespace Typeahead.Highlight

/-! What a listing of highlight groups says. Lines before the first heading belong to no group; the others are cut at
the headings into entries, and each entry gives one group. -/

open Text

section Headings

def IsMadeOf (kind : Char → Bool) (text : List Char) : Prop := text ≠ [] ∧ ∀ character ∈ text, kind character = true

/-- A line that starts a group: the name, the mark `xxx` between gaps, and some content. -/
def IsHeading (line name content : String) : Prop :=
  ∃ letters gap space body, line.toList = letters ++ (gap ++ ('x' :: 'x' :: 'x' :: (space ++ body))) ∧
    IsMadeOf isNameChar letters ∧ IsMadeOf isSpace gap ∧ IsMadeOf isSpace space ∧ body ≠ [] ∧
      name = String.ofList letters ∧ content = strip (String.ofList body)

theorem isNameChar_of_isSpace {character : Char} (isBlank : isSpace character = true) : isNameChar character = false := by
  have noLetter : isAlphanumeric character = false := by
    cases isLetter : isAlphanumeric character with
    | false => rfl
    | true => simp [isSpace_of_isAlphanumeric isLetter] at isBlank
  have noUnderscore : character ≠ '_' := by
    intro same
    rw [same] at isBlank
    exact absurd isBlank (by decide)
  simp [isNameChar, noLetter, noUnderscore]

theorem takeWhile_of_stop {kind : Char → Bool} {part rest : List Char} {stop : Char}
    (made : IsMadeOf kind part) (stops : kind stop = false) : (part ++ stop :: rest).takeWhile kind = part := by
  rw [List.takeWhile_append_of_pos made.2]
  simp [stops]

theorem dropWhile_of_stop {kind : Char → Bool} {part rest : List Char} {stop : Char}
    (made : IsMadeOf kind part) (stops : kind stop = false) : (part ++ stop :: rest).dropWhile kind = stop :: rest := by
  rw [List.dropWhile_append_of_pos made.2]
  simp [stops]

theorem heading?_of_isHeading {line name content : String} (isHeading : IsHeading line name content) :
    heading? line = some (name, content) := by
  obtain ⟨letters, gap, space, body, isLine, named, apart, behind, filled, rfl, rfl⟩ := isHeading
  obtain ⟨blank, blanks, isGap⟩ := List.exists_cons_of_ne_nil apart.1
  have notNamed : isNameChar blank = false := isNameChar_of_isSpace (apart.2 blank (by simp [isGap]))
  have name_eq : line.toList.takeWhile isNameChar = letters := by
    rw [isLine, isGap]
    exact takeWhile_of_stop named notNamed
  have rest_eq : line.toList.dropWhile isNameChar = gap ++ ('x' :: 'x' :: 'x' :: (space ++ body)) := by
    rw [isLine, isGap]
    exact dropWhile_of_stop named notNamed
  have mark_eq : (gap ++ ('x' :: 'x' :: 'x' :: (space ++ body))).dropWhile isSpace =
      'x' :: 'x' :: 'x' :: (space ++ body) :=
    dropWhile_of_stop apart (by decide)
  have after_eq : ('x' :: 'x' :: 'x' :: (space ++ body)).drop 3 = space ++ body := rfl
  have gap_eq : (space ++ body).takeWhile isSpace = space ++ body.takeWhile isSpace :=
    List.takeWhile_append_of_pos behind.2
  have content_eq : (space ++ body).dropWhile isSpace = body.dropWhile isSpace :=
    List.dropWhile_append_of_pos behind.2
  have accepted : (letters.isEmpty || ('x' :: 'x' :: 'x' :: (space ++ body)).length ==
      (gap ++ ('x' :: 'x' :: 'x' :: (space ++ body))).length ||
      ('x' :: 'x' :: 'x' :: (space ++ body)).take 3 != ['x', 'x', 'x'] ||
      (space ++ body.takeWhile isSpace).isEmpty) = false := by
    simp [named.1, apart.1, behind.1]
  unfold heading?
  dsimp only
  rw [name_eq, rest_eq, mark_eq, after_eq, gap_eq, content_eq, accepted, if_neg Bool.false_ne_true]
  cases left : body.dropWhile isSpace with
  | cons first others =>
      change some (String.ofList letters, strip (String.ofList (first :: others))) = _
      rw [← left, strip, strip, String.toList_ofList, String.toList_ofList, stripChars_dropWhile]
  | nil =>
      -- of a content of blanks only the last one counts, and it is stripped
      have blank : ∀ character ∈ body, isSpace character = true := List.dropWhile_eq_nil_iff.mp left
      have long : ¬ (space ++ body.takeWhile isSpace).length < 2 := by
        rw [List.takeWhile_eq_self_iff.mpr blank, List.length_append]
        have someSpace := List.length_pos_iff.mpr behind.1
        have someBody := List.length_pos_iff.mpr filled
        omega
      change (if (space ++ body.takeWhile isSpace).length < 2 then none else some (String.ofList letters, "")) = _
      rw [if_neg long, strip_of_blank blank]

theorem isMadeOf_takeWhile {kind : Char → Bool} {text : List Char} (some : text.takeWhile kind ≠ []) :
    IsMadeOf kind (text.takeWhile kind) :=
  ⟨some, fun _ => List.mem_takeWhile_imp⟩

theorem isHeading_of_heading? {line name content : String} (found : heading? line = some (name, content)) :
    IsHeading line name content := by
  unfold heading? at found
  dsimp only at found
  generalize isRest : line.toList.dropWhile isNameChar = rest at found
  generalize isMark : rest.dropWhile isSpace = mark at found
  generalize isAfter : mark.drop 3 = after at found
  split at found
  · cases found
  next accepted =>
    simp only [Bool.or_eq_true, not_or, List.isEmpty_iff, bne_iff_ne, ne_eq, not_not, beq_iff_eq] at accepted
    obtain ⟨⟨⟨named, apart⟩, marked⟩, behind⟩ := accepted
    have letters_rest : line.toList.takeWhile isNameChar ++ rest = line.toList := by
      rw [← isRest, List.takeWhile_append_dropWhile]
    have gap_mark : rest.takeWhile isSpace ++ mark = rest := by
      rw [← isMark, List.takeWhile_append_dropWhile]
    have mark_after : 'x' :: 'x' :: 'x' :: after = mark := by
      rw [← isAfter]
      exact (congrArg (· ++ mark.drop 3) marked).symm.trans (List.take_append_drop 3 mark)
    have someGap : rest.takeWhile isSpace ≠ [] := by
      intro noGap
      rw [noGap, List.nil_append] at gap_mark
      exact apart (by rw [gap_mark])
    have isLine {space body : List Char} (isCut : space ++ body = after) : line.toList =
        line.toList.takeWhile isNameChar ++
          (rest.takeWhile isSpace ++ ('x' :: 'x' :: 'x' :: (space ++ body))) := by
      rw [isCut, mark_after, gap_mark, letters_rest]
    split at found
    · next someContent =>
        cases found
        have filled : after.dropWhile isSpace ≠ [] := by simpa using someContent
        exact ⟨_, _, _, _, isLine List.takeWhile_append_dropWhile, isMadeOf_takeWhile named,
          isMadeOf_takeWhile someGap, isMadeOf_takeWhile behind, filled, rfl, rfl⟩
    · next noContent =>
        split at found
        · cases found
        next long =>
          cases found
          -- blanks only: the last one is the content, and those before it are the gap
          have noRest : after.dropWhile isSpace = [] := by simpa using noContent
          have blank : ∀ character ∈ after, isSpace character = true := List.dropWhile_eq_nil_iff.mp noRest
          rw [List.takeWhile_eq_self_iff.mpr blank] at behind long
          have isCut := List.dropLast_append_getLast behind
          have someSpace : after.dropLast ≠ [] := by
            rw [← List.length_pos_iff, List.length_dropLast]
            omega
          have lastBlank : ∀ character ∈ [after.getLast behind], isSpace character = true := by
            simpa using blank _ (List.getLast_mem behind)
          refine ⟨_, _, _, _, isLine isCut, isMadeOf_takeWhile named, isMadeOf_takeWhile someGap, ⟨someSpace, ?_⟩,
            by simp, rfl, (strip_of_blank lastBlank).symm⟩
          intro character member
          exact blank character (List.dropLast_subset after member)

theorem heading?_eq_some_iff {line name content : String} :
    heading? line = some (name, content) ↔ IsHeading line name content :=
  ⟨isHeading_of_heading?, heading?_of_isHeading⟩

end Headings

section Listings

def isIndented (line : String) : Bool := startsWith line " " || startsWith line "\t"

def StartsNone (line : String) : Prop := ∀ name content, ¬ IsHeading line name content

/-- The lines of one group: its heading, then lines of which the indented ones are its own. -/
def IsEntry (lines : List String) (group : Group) : Prop :=
  ∃ first body content, lines = first :: body ∧ IsHeading first group.name content ∧ (∀ line ∈ body, StartsNone line) ∧
    group.lines = content :: (body.filter isIndented).map strip

/-- The groups that lines list, in order. -/
def IsListing (lines : List String) (groups : List Group) : Prop :=
  ∃ preamble entries, lines = preamble ++ entries.flatten ∧ (∀ line ∈ preamble, StartsNone line) ∧
    List.Forall₂ IsEntry entries groups

variable {current : Option Group} {group : Group} {line : String} {lines body entry rest : List String}

theorem startsNone_iff : StartsNone line ↔ heading? line = none := by
  simp only [StartsNone, ← heading?_eq_some_iff, Option.eq_none_iff_forall_ne_some, Prod.forall]

theorem groupsFrom_heading {name content : String} (starts : heading? line = some (name, content)) :
    groupsFrom current (line :: rest) = current.toList ++ groupsFrom (some ⟨name, [content]⟩) rest := by
  have filled : line.isEmpty = false := by
    cases isEmpty : line.isEmpty with
    | false => rfl
    | true =>
        have nothing : heading? "" = none := by decide
        rw [String.isEmpty_iff.mp isEmpty, nothing] at starts
        cases starts
  rw [groupsFrom.eq_def]
  simp only [filled, starts]
  cases current with
  | none => rfl
  | some group => rfl

theorem groupsFrom_startsNone (startsNone : StartsNone line) :
    groupsFrom current (line :: rest) = groupsFrom (current.map fun group =>
      { group with lines := group.lines ++ ([line].filter isIndented).map strip }) rest := by
  have emptyNotIndented (isEmpty : line.isEmpty = true) : isIndented line = false := by
    rw [String.isEmpty_iff.mp isEmpty]
    decide
  rw [groupsFrom.eq_def]
  simp only [startsNone_iff.mp startsNone]
  cases current with
  | none => simp
  | some group =>
      cases isEmpty : line.isEmpty with
      | true => simp [emptyNotIndented isEmpty]
      | false =>
          change (if isIndented line then _ else _) = _
          cases indented : isIndented line with
          | true => simp [indented]
          | false => simp [indented]

theorem groupsFrom_body (startNone : ∀ line ∈ body, StartsNone line) :
    groupsFrom current (body ++ rest) = groupsFrom (current.map fun group =>
      { group with lines := group.lines ++ (body.filter isIndented).map strip }) rest := by
  induction body generalizing current with
  | nil => simp
  | cons line body ih =>
      obtain ⟨startsNone, startNone⟩ := List.forall_mem_cons.mp startNone
      rw [List.cons_append, groupsFrom_startsNone startsNone, ih startNone, Option.map_map]
      congr 2
      funext group
      simp [← List.filter_append, ← List.map_append]

theorem groupsFrom_entry (isEntry : IsEntry entry group) :
    groupsFrom current (entry ++ rest) = current.toList ++ groupsFrom (some group) rest := by
  obtain ⟨first, body, content, isCut, isHeading, startNone, isGroup⟩ := isEntry
  rw [isCut, List.cons_append, groupsFrom_heading (heading?_of_isHeading isHeading), groupsFrom_body startNone]
  obtain ⟨name, lines⟩ := group
  simp_all

theorem groupsFrom_entries {entries : List (List String)} {groups : List Group}
    (areEntries : List.Forall₂ IsEntry entries groups) :
    groupsFrom current entries.flatten = current.toList ++ groups := by
  induction areEntries generalizing current with
  | nil =>
      rw [List.append_nil]
      rfl
  | cons isEntry _ ih => rw [List.flatten_cons, groupsFrom_entry isEntry, ih, Option.toList_some, List.singleton_append]

theorem isEntry_of_heading? {name content : String} (starts : heading? line = some (name, content))
    (startNone : ∀ line ∈ body, StartsNone line) :
    IsEntry (line :: body) ⟨name, content :: (body.filter isIndented).map strip⟩ :=
  ⟨line, body, content, rfl, isHeading_of_heading? starts, startNone, rfl⟩

theorem exists_isListing (lines : List String) : ∃ groups, IsListing lines groups := by
  induction lines with
  | nil => exact ⟨[], [], [], rfl, by simp, .nil⟩
  | cons line lines ih =>
      obtain ⟨groups, preamble, entries, isCut, startNone, areEntries⟩ := ih
      cases starts : heading? line with
      | none =>
          refine ⟨groups, line :: preamble, entries, by simp [isCut], ?_, areEntries⟩
          exact List.forall_mem_cons.mpr ⟨startsNone_iff.mpr starts, startNone⟩
      | some found =>
          -- what stood before the first entry is the body of a new one
          have isEntry := isEntry_of_heading? starts startNone
          exact ⟨_ :: groups, [], (line :: preamble) :: entries, by simp [isCut], by simp, .cons isEntry areEntries⟩

theorem isListing_iff {groups : List Group} : IsListing lines groups ↔ groups = groupsFrom none lines := by
  have reads {groups : List Group} (isListing : IsListing lines groups) : groups = groupsFrom none lines := by
    obtain ⟨preamble, entries, isCut, startNone, areEntries⟩ := isListing
    rw [isCut, groupsFrom_body startNone, groupsFrom_entries areEntries]
    rfl
  constructor
  · exact reads
  · intro same
    obtain ⟨others, isListing⟩ := exists_isListing lines
    rw [same, ← reads isListing]
    exact isListing

theorem isListing_listed (output : String) : IsListing (split '\n' output) (listed output) := isListing_iff.mpr rfl

/-- An entry behind a listing adds its group at the end. -/
theorem listed_append {entry : String} (output : String) (isEntry : IsEntry (split '\n' entry) group) :
    listed (output ++ "\n" ++ entry) = listed output ++ [group] := by
  obtain ⟨preamble, entries, isCut, startNone, areEntries⟩ := isListing_listed output
  have isSplit : split '\n' (output ++ "\n" ++ entry) = split '\n' output ++ split '\n' entry := split_append output entry
  have longer : IsListing (split '\n' (output ++ "\n" ++ entry)) (listed output ++ [group]) := by
    refine ⟨preamble, entries ++ [split '\n' entry], ?_, startNone, List.rel_append areEntries (.cons isEntry .nil)⟩
    simp [isSplit, isCut]
  exact (isListing_iff.mp longer).symm

end Listings

end Typeahead.Highlight

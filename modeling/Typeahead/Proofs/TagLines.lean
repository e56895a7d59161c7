import Mathlib.Data.List.Forall2
import Mathlib.Data.List.TakeWhile
import Typeahead.Identifier.Tags

namespace Typeahead.Identifier

/-! Tags files are read line by line. No reader of a part of an entry looks behind a line feed, so that a text
behind one changes nothing of what is found before it, and reading starts afresh there. The tables of two texts
with a line feed between them are then put together source by source. -/

def lineFeed : UInt8 := 10

/-- What follows the line feed behind a text goes to what a reader leaves of the text. -/
def withMore {α : Type} (more : Bytes) (read : α × Bytes) : α × Bytes := (read.1, read.2 ++ lineFeed :: more)

theorem takeWhile_lineFeed {keeps : UInt8 → Bool} (stops : keeps lineFeed = false) (text more : Bytes) :
    (text ++ lineFeed :: more).takeWhile keeps = text.takeWhile keeps := by
  induction text with
  | nil => simp [stops]
  | cons letter text ih => simp [List.takeWhile_cons, ih]

theorem dropWhile_lineFeed {keeps : UInt8 → Bool} (stops : keeps lineFeed = false) (text more : Bytes) :
    (text ++ lineFeed :: more).dropWhile keeps = text.dropWhile keeps ++ lineFeed :: more := by
  induction text with
  | nil => simp [stops]
  | cons letter text ih =>
      cases kept : keeps letter with
      | true => simp [kept, ih]
      | false => simp [kept]

theorem field?_lineFeed (text more : Bytes) :
    field? (text ++ lineFeed :: more) = (field? text).map (withMore more) := by
  have stops : (!endsField lineFeed) = false := by decide
  rw [field?, field?, takeWhile_lineFeed stops, dropWhile_lineFeed stops]
  cases text.takeWhile (!endsField ·) with
  | nil => rfl
  | cons letter field => rfl

theorem afterTab?_lineFeed (text more : Bytes) :
    afterTab? (text ++ lineFeed :: more) = (afterTab? text).map (· ++ lineFeed :: more) := by
  cases text with
  | nil => rfl
  | cons letter text =>
      simp only [List.cons_append, afterTab?]
      split
      · rfl
      · rfl

theorem isPrefixOf_lineFeed {label : Bytes} (oneLine : lineFeed ∉ label) (text more : Bytes) :
    label.isPrefixOf (text ++ lineFeed :: more) = label.isPrefixOf text := by
  induction label generalizing text with
  | nil => simp
  | cons letter label ih =>
      have notFirst : letter ≠ lineFeed := fun same => oneLine (same ▸ List.mem_cons_self)
      have notLater : lineFeed ∉ label := fun later => oneLine (List.mem_cons_of_mem _ later)
      cases text with
      | nil => simp [List.isPrefixOf, notFirst]
      | cons first text => simp [List.isPrefixOf, ih notLater]

theorem languageHere?_lineFeed (text more : Bytes) :
    languageHere? (text ++ lineFeed :: more) = (languageHere? text).map (withMore more) := by
  rw [languageHere?, languageHere?, isPrefixOf_lineFeed (by decide)]
  split
  · rename_i labelled
    have long : languageLabel.length ≤ text.length := (List.isPrefixOf_iff_prefix.mp labelled).length_le
    rw [List.drop_append_of_le_length long, field?_lineFeed]
  · rfl

theorem language?_lineFeed (text more : Bytes) :
    language? (text ++ lineFeed :: more) = (language? text).map (withMore more) := by
  induction text with
  | nil =>
      have noneHere : languageHere? (lineFeed :: more) = none := languageHere?_lineFeed [] more
      have breaks : breaksLine lineFeed = true := by decide
      simp [language?, noneHere, breaks]
  | cons letter text ih =>
      have here := languageHere?_lineFeed (letter :: text) more
      rw [List.cons_append] at here
      simp only [List.cons_append, language?, here]
      cases languageHere? (letter :: text) with
      | some found => rfl
      | none =>
          cases breaksLine letter with
          | true => rfl
          | false => exact ih

theorem tag?_lineFeed (text more : Bytes) :
    tag? (text ++ lineFeed :: more) = (tag? text).map (withMore more) := by
  have lineEnds : ∀ text, (text ++ lineFeed :: more).dropWhile (!breaksLine ·) =
      text.dropWhile (!breaksLine ·) ++ lineFeed :: more := fun text => dropWhile_lineFeed (by decide) text more
  simp only [tag?, field?_lineFeed, Option.bind_eq_bind, Option.bind_map, Option.map_bind, Function.comp_def,
    withMore, afterTab?_lineFeed, language?_lineFeed, lineEnds, Option.pure_def, Option.map_some]

theorem tagAt?_lineFeed (atStart : Bool) (text more : Bytes) :
    tagAt? atStart (text ++ lineFeed :: more) = (tagAt? atStart text).map (withMore more) := by
  cases atStart with
  | false => rfl
  | true => exact tag?_lineFeed text more

section Scanning

variable {atStart : Bool} {text rest : Bytes} {entry : TagEntry} {letter : UInt8}

theorem entriesFrom_of_found (found : tagAt? atStart text = some (entry, rest)) :
    entriesFrom atStart text = entry :: entriesFrom true rest := by
  rw [entriesFrom]
  split
  · rename_i other
    cases found.symm.trans other
    rfl
  · rename_i missed
    cases found.symm.trans missed

theorem entriesFrom_of_missed (missed : tagAt? atStart (letter :: rest) = none) :
    entriesFrom atStart (letter :: rest) = entriesFrom (startsLine letter rest.head?) rest := by
  rw [entriesFrom]
  split
  · rename_i found
    cases missed.symm.trans found
  · rfl

theorem tagAt?_nil (atStart : Bool) : tagAt? atStart [] = none := by
  cases atStart <;> rfl

theorem entriesFrom_nil (atStart : Bool) : entriesFrom atStart [] = [] := by
  rw [entriesFrom]
  split
  · rename_i found
    cases (tagAt?_nil atStart).symm.trans found
  · rfl

/-- No entry starts at a line feed, and a line starts behind it, whatever stands before. -/
theorem entriesFrom_lineFeed (atStart : Bool) (more : Bytes) : entriesFrom atStart (lineFeed :: more) = entries more := by
  have missed : tagAt? atStart (lineFeed :: more) = none := by
    have same := tagAt?_lineFeed atStart [] more
    rwa [tagAt?_nil] at same
  have starts : startsLine lineFeed more.head? = true := by simp [startsLine, breaksLine, lineFeed]
  rw [entriesFrom_of_missed missed, starts, entries]

theorem entriesFrom_append (atStart : Bool) (text more : Bytes) :
    entriesFrom atStart (text ++ lineFeed :: more) = entriesFrom atStart text ++ entries more := by
  fun_induction entriesFrom atStart text with
  | case1 atStart text entry rest found _ ih =>
      have longer := tagAt?_lineFeed atStart text more
      rw [found] at longer
      rw [entriesFrom_of_found longer, ih, List.cons_append]
  | case2 atStart missed => exact entriesFrom_lineFeed atStart more
  | case3 atStart letter rest missed ih =>
      have longer := tagAt?_lineFeed atStart (letter :: rest) more
      rw [missed, List.cons_append] at longer
      rw [List.cons_append, entriesFrom_of_missed longer]
      cases rest with
      -- a carriage return before the line feed no longer ends the line, but nothing is left before the line feed
      | nil => rw [List.nil_append, entriesFrom_lineFeed, entriesFrom_nil, List.nil_append]
      | cons next rest => exact ih

theorem entries_append (text more : Bytes) : entries (text ++ lineFeed :: more) = entries text ++ entries more :=
  entriesFrom_append true text more

theorem ofTags_append (tagsPath text more : Bytes) :
    ofTags tagsPath (text ++ lineFeed :: more) = ofTags tagsPath text ++ ofTags tagsPath more := by
  rw [ofTags, entries_append, List.filterMap_append]
  rfl

end Scanning

section Places

variable {text rest field language : Bytes} {entry : TagEntry} {found : List TagEntry}

/-- The form of an entry in a text. -/
def Written (entry : TagEntry) (part : Bytes) : Prop :=
  ∃ skipped ending, part =
    entry.name ++ tab :: (entry.path ++ tab :: (skipped ++ (languageLabel ++ (entry.language ++ ending))))

/-- Entries stand in a text in their order, each within one line. -/
inductive InOrder : Bytes → List TagEntry → Prop where
  | done (text : Bytes) : InOrder text []
  | next {gap part rest : Bytes} {entry : TagEntry} {later : List TagEntry} (written : Written entry part)
      (oneLine : lineFeed ∉ part) (follow : InOrder rest later) : InOrder (gap ++ (part ++ rest)) (entry :: later)

theorem InOrder.cons (letter : UInt8) (stand : InOrder text found) : InOrder (letter :: text) found := by
  cases stand with
  | done => exact .done _
  | @next gap part rest entry later written oneLine follow =>
      exact @InOrder.next (letter :: gap) part rest entry later written oneLine follow

theorem eq_append_of_field? (read : field? text = some (field, rest)) : text = field ++ rest ∧ lineFeed ∉ field := by
  rw [field?] at read
  split at read
  · cases read
  · cases read
    refine ⟨List.takeWhile_append_dropWhile.symm, fun inside => ?_⟩
    exact absurd (List.mem_takeWhile_imp inside) (by decide)

theorem eq_cons_of_afterTab? (read : afterTab? text = some rest) : text = tab :: rest := by
  cases text with
  | nil => cases read
  | cons letter text =>
      rw [afterTab?] at read
      split at read
      · rename_i isTab
        cases read
        rw [eq_of_beq isTab]
      · cases read

theorem eq_append_of_languageHere? (read : languageHere? text = some (language, rest)) :
    text = languageLabel ++ (language ++ rest) ∧ lineFeed ∉ language := by
  rw [languageHere?] at read
  split at read
  · rename_i labelled
    obtain ⟨behind, rfl⟩ := List.isPrefixOf_iff_prefix.mp labelled
    rw [List.drop_left] at read
    obtain ⟨rfl, oneLine⟩ := eq_append_of_field? read
    exact ⟨rfl, oneLine⟩
  · cases read

theorem eq_append_of_language? (read : language? text = some (language, rest)) :
    ∃ skipped, text = skipped ++ (languageLabel ++ (language ++ rest)) ∧ lineFeed ∉ skipped ∧ lineFeed ∉ language := by
  induction text with
  | nil => cases read
  | cons letter text ih =>
      rw [language?] at read
      cases here : languageHere? (letter :: text) with
      | some found =>
          rw [here] at read
          cases read
          obtain ⟨same, oneLine⟩ := eq_append_of_languageHere? here
          exact ⟨[], same, List.not_mem_nil, oneLine⟩
      | none =>
          rw [here] at read
          cases breaks : breaksLine letter with
          | true => simp [breaks] at read
          | false =>
              simp only [breaks, Bool.false_eq_true, if_false] at read
              obtain ⟨skipped, rfl, notSkipped, oneLine⟩ := ih read
              refine ⟨letter :: skipped, rfl, fun inside => ?_, oneLine⟩
              cases inside with
              | head => exact absurd breaks (by decide)
              | tail _ later => exact notSkipped later

theorem eq_append_of_tag? (read : tag? text = some (entry, rest)) :
    ∃ part, text = part ++ rest ∧ Written entry part ∧ lineFeed ∉ part := by
  simp only [tag?, Option.bind_eq_bind, Option.bind_eq_some_iff, Option.pure_def, Option.some.injEq,
    Prod.mk.injEq] at read
  obtain ⟨⟨name, first⟩, nameRead, second, tabRead, ⟨path, third⟩, pathRead, fourth, nextTab,
    ⟨language, last⟩, languageRead, rfl, rfl⟩ := read
  simp only at tabRead nextTab ⊢
  obtain ⟨rfl, inName⟩ := eq_append_of_field? nameRead
  cases eq_cons_of_afterTab? tabRead
  obtain ⟨rfl, inPath⟩ := eq_append_of_field? pathRead
  cases eq_cons_of_afterTab? nextTab
  obtain ⟨skipped, rfl, inSkipped, inLanguage⟩ := eq_append_of_language? languageRead
  have inEnding : lineFeed ∉ last.takeWhile (!breaksLine ·) := fun inside =>
    absurd (List.mem_takeWhile_imp inside) (by decide)
  have inLabel : lineFeed ∉ languageLabel := by decide
  have notTab : lineFeed ≠ tab := by decide
  refine ⟨_, ?_, ⟨skipped, last.takeWhile (!breaksLine ·), rfl⟩, ?_⟩
  · simp [List.takeWhile_append_dropWhile]
  · simp [inName, inPath, inSkipped, inLanguage, inEnding, inLabel, notTab]

theorem inOrder_entriesFrom (atStart : Bool) (text : Bytes) : InOrder text (entriesFrom atStart text) := by
  fun_induction entriesFrom atStart text with
  | case1 atStart text entry rest found _ ih =>
      have read : tag? text = some (entry, rest) := by
        cases atStart with
        | false => cases found
        | true => exact found
      obtain ⟨part, rfl, written, oneLine⟩ := eq_append_of_tag? read
      exact @InOrder.next [] part rest entry _ written oneLine ih
  | case2 => exact .done []
  | case3 atStart letter rest _ ih => exact ih.cons letter

end Places

section Lines

def IsField (field : Bytes) : Prop := field ≠ [] ∧ ∀ letter ∈ field, endsField letter = false

/-- The lines of an entry: its fields, and the language behind the only label before it. -/
inductive IsLine : TagEntry → Bytes → Prop where
  | mk {name path language skipped ending : Bytes} (isName : IsField name) (isPath : IsField path)
      (isLanguage : IsField language) (oneLine : ∀ letter ∈ skipped ++ ending, breaksLine letter = false)
      (firstLabel : ∀ late, late <:+ skipped → late ≠ [] →
        ¬ languageLabel <+: late ++ (languageLabel ++ (language ++ ending)))
      (fieldEnds : ∀ letter ∈ ending.head?, letter = tab) :
      IsLine ⟨name, path, language⟩
        (name ++ tab :: (path ++ tab :: (skipped ++ (languageLabel ++ (language ++ ending)))))

variable {language skipped ending field rest line : Bytes} {entry : TagEntry}

theorem field?_of_isField (isField : IsField field) (ends : ∀ letter ∈ rest.head?, endsField letter = true) :
    field? (field ++ rest) = some (field, rest) := by
  have kept : ∀ letter ∈ field, (!endsField letter) = true := fun letter inside => by simp [isField.2 letter inside]
  have stopped : rest.takeWhile (!endsField ·) = [] ∧ rest.dropWhile (!endsField ·) = rest := by
    cases rest with
    | nil => exact ⟨rfl, rfl⟩
    | cons letter rest =>
        have stops : endsField letter = true := ends letter rfl
        simp [stops]
  rw [field?, List.takeWhile_append_of_pos kept, List.dropWhile_append_of_pos kept, stopped.1, stopped.2]
  simp [isField.1]

theorem language?_of_first (isLanguage : IsField language) (ends : ∀ letter ∈ ending.head?, endsField letter = true)
    (oneLine : ∀ letter ∈ skipped, breaksLine letter = false)
    (firstLabel : ∀ late, late <:+ skipped → late ≠ [] →
      ¬ languageLabel <+: late ++ (languageLabel ++ (language ++ ending))) :
    language? (skipped ++ (languageLabel ++ (language ++ ending))) = some (language, ending) := by
  induction skipped with
  | nil =>
      have here : languageHere? (languageLabel ++ (language ++ ending)) = some (language, ending) := by
        rw [languageHere?, if_pos (List.isPrefixOf_iff_prefix.mpr (List.prefix_append _ _)), List.drop_left,
          field?_of_isField isLanguage ends]
      rw [List.nil_append]
      generalize labelled : languageLabel ++ (language ++ ending) = text at here ⊢
      cases text with
      | nil => cases here
      | cons letter text => simp [language?, here]
  | cons letter skipped ih =>
      have notHere : languageHere? (letter :: (skipped ++ (languageLabel ++ (language ++ ending)))) = none := by
        rw [languageHere?, if_neg]
        intro labelled
        exact firstLabel (letter :: skipped) List.suffix_rfl (by simp) (List.isPrefixOf_iff_prefix.mp labelled)
      have continues : breaksLine letter = false := oneLine letter List.mem_cons_self
      have later : language? (skipped ++ (languageLabel ++ (language ++ ending))) = some (language, ending) := by
        apply ih
        · intro other inside
          exact oneLine other (List.mem_cons_of_mem _ inside)
        · intro late isLate
          exact firstLabel late (isLate.trans (List.suffix_cons letter skipped))
      simp [language?, notHere, continues, later]

theorem tag?_of_isLine (isLine : IsLine entry line) : tag? line = some (entry, []) := by
  obtain @⟨name, path, language, skipped, ending, isName, isPath, isLanguage, oneLine, firstLabel, fieldEnds⟩ := isLine
  have tabEnds : ∀ rest : Bytes, ∀ letter ∈ (tab :: rest).head?, endsField letter = true := by
    intro rest letter first
    cases first
    decide
  have ends : ∀ letter ∈ ending.head?, endsField letter = true := by
    intro letter first
    rw [fieldEnds letter first]
    decide
  have languageRead := language?_of_first isLanguage ends
    (fun letter inside => oneLine letter (List.mem_append_left _ inside)) firstLabel
  have lineEnds : ending.dropWhile (!breaksLine ·) = [] := by
    rw [List.dropWhile_eq_nil_iff]
    intro letter inside
    simp [oneLine letter (List.mem_append_right _ inside)]
  simp [tag?, field?_of_isField isName (tabEnds _), field?_of_isField isPath (tabEnds _), afterTab?, languageRead,
    lineEnds]

theorem entries_of_isLine (isLine : IsLine entry line) : entries line = [entry] := by
  have found : tagAt? true line = some (entry, []) := tag?_of_isLine isLine
  rw [entries, entriesFrom_of_found found, entriesFrom_nil]

/-- A tags file made of lines of entries has these entries. -/
theorem entries_intercalate {found : List TagEntry} {lines : List Bytes} (areLines : List.Forall₂ IsLine found lines) :
    entries ([lineFeed].intercalate lines) = found := by
  induction areLines with
  | nil => exact entriesFrom_nil true
  | @cons entry line found lines isLine areLines ih =>
      cases areLines with
      | nil => rw [List.intercalate_singleton, entries_of_isLine isLine]
      | cons second rest =>
          rw [List.intercalate_cons_cons, List.append_assoc, List.singleton_append, entries_append,
            entries_of_isLine isLine, ih, List.singleton_append]

end Lines

namespace TagTable

variable {table : TagTable} {source : Source}

/-- The identifiers of a source among those that are found, or nothing if there are none. -/
def namesAmong? (source : Source) (found : List (Source × Bytes)) : Option (List Bytes) :=
  let names := (found.filter (·.1 = source)).map (·.2)
  if names.isEmpty then none else some names

theorem namesAmong?_append (source : Source) (found later : List (Source × Bytes)) :
    namesAmong? source (found ++ later) =
      Option.merge (· ++ ·) (namesAmong? source found) (namesAmong? source later) := by
  simp only [namesAmong?, List.filter_append, List.map_append]
  cases (found.filter (·.1 = source)).map (·.2) <;> cases (later.filter (·.1 = source)).map (·.2) <;> simp

theorem names?_push (table : TagTable) (tagged : Source × Bytes) :
    (table.push tagged.1 tagged.2).names? source =
      Option.merge (· ++ ·) (table.names? source) (namesAmong? source [tagged]) := by
  obtain ⟨⟨filetype, path⟩, name⟩ := tagged
  obtain ⟨otherType, otherPath⟩ := source
  by_cases sameType : otherType = filetype
  · subst sameType
    by_cases samePath : otherPath = path
    · subst samePath
      simp only [names?, push, Table.lookup_alter_self, Option.bind_some, namesAmong?]
      cases table.lookup otherType with
      | none => simp
      | some files =>
          simp only [Option.getD_some, Option.bind_some]
          cases files.lookup otherPath <;> simp
    · simp only [names?, push, Table.lookup_alter_self, Option.bind_some, namesAmong?,
        Table.lookup_alter_other _ _ samePath]
      cases table.lookup otherType <;> simp [Ne.symm samePath]
  · simp [names?, push, Table.lookup_alter_other _ _ sameType, namesAmong?, Ne.symm sameType]

theorem names?_foldl_push (found : List (Source × Bytes)) (table : TagTable) :
    (found.foldl (fun table tagged => table.push tagged.1 tagged.2) table).names? source =
      Option.merge (· ++ ·) (table.names? source) (namesAmong? source found) := by
  induction found generalizing table with
  | nil => simp [namesAmong?]
  | cons tagged found ih =>
      have split := namesAmong?_append source [tagged] found
      rw [List.singleton_append] at split
      have regroup : Std.Associative (Option.merge fun left right : List Bytes => left ++ right) := inferInstance
      rw [List.foldl_cons, ih, names?_push, split, regroup.assoc]

/-- A table lists the identifiers of each source in the order in which they are found. -/
theorem names?_ofText (tagsPath text : Bytes) (source : Source) :
    (ofText tagsPath text).names? source = namesAmong? source (ofTags tagsPath text) := by
  rw [ofText, names?_foldl_push]
  exact Option.merge_none_left

theorem ofTags_of_unknown {tagsPath line : Bytes} (unknown : ∀ entry ∈ entries line, filetype? entry.language = none) :
    ofTags tagsPath line = [] := by
  rw [ofTags, List.filterMap_eq_nil_iff]
  intro entry listed
  rw [unknown entry listed]
  rfl

/-- A tags file is read line by line. Two texts with a line feed between them have the identifiers of the first
and then those of the second at each source. Identifiers are listed in the order in which their entries stand in the
text, none of them across a line feed; a line of an entry gives the entry, and a line without one of a known language
changes nothing. -/
theorem ofText_line_by_line (tagsPath before after : Bytes) :
    (∀ source, (ofText tagsPath (before ++ lineFeed :: after)).names? source =
      Option.merge (· ++ ·) ((ofText tagsPath before).names? source) ((ofText tagsPath after).names? source)) ∧
    (∀ text, InOrder text (entries text) ∧
      ∀ source, (ofText tagsPath text).names? source = namesAmong? source (ofTags tagsPath text)) ∧
    (∀ entry line, IsLine entry line →
      entries (before ++ lineFeed :: (line ++ lineFeed :: after)) = entries before ++ entry :: entries after) ∧
    ∀ line, (∀ entry ∈ entries line, filetype? entry.language = none) →
      ofText tagsPath (before ++ lineFeed :: (line ++ lineFeed :: after)) =
        ofText tagsPath (before ++ lineFeed :: after) := by
  refine ⟨fun source => ?_, fun text => ⟨inOrder_entriesFrom true text, names?_ofText tagsPath text⟩, ?_, ?_⟩
  · rw [names?_ofText, ofTags_append, namesAmong?_append, ← names?_ofText, ← names?_ofText]
  · intro entry line isLine
    rw [entries_append, entries_append, entries_of_isLine isLine, List.singleton_append]
  · intro line unknown
    have same : ofTags tagsPath (before ++ lineFeed :: (line ++ lineFeed :: after)) =
        ofTags tagsPath (before ++ lineFeed :: after) := by
      rw [ofTags_append, ofTags_append, ofTags_append, ofTags_of_unknown unknown, List.nil_append]
    rw [ofText, ofText, same]

theorem ofText_line_by_line_crlf :
    let tagsPath := Bytes.ofString "/p/tags"
    let before := Bytes.ofString "alpha\tone\tlanguage:C\r"
    let after := Bytes.ofString "beta\tone\tx\tlanguage:C\tend"
    let line := Bytes.ofString "gamma\ttwo\tlanguage:Klingon"
    (ofText tagsPath (before ++ lineFeed :: after)).names? ⟨Bytes.ofString "c", Bytes.ofString "/p/one"⟩ =
        some [Bytes.ofString "alpha", Bytes.ofString "beta"] ∧
      IsLine ⟨Bytes.ofString "gamma", Bytes.ofString "two", Bytes.ofString "Klingon"⟩ line ∧
      (∀ entry ∈ entries line, filetype? entry.language = none) ∧
      ofText tagsPath (before ++ lineFeed :: (line ++ lineFeed :: after)) =
        ofText tagsPath (before ++ lineFeed :: after) := by
  intro tagsPath before after line
  obtain ⟨together, _, _, unchanged⟩ := ofText_line_by_line tagsPath before after
  have isLine : IsLine ⟨Bytes.ofString "gamma", Bytes.ofString "two", Bytes.ofString "Klingon"⟩ line := by
    have written : line = Bytes.ofString "gamma" ++ tab :: (Bytes.ofString "two" ++
        tab :: ([] ++ (languageLabel ++ (Bytes.ofString "Klingon" ++ [])))) := by decide +kernel
    rw [written]
    refine .mk ⟨by decide +kernel, by decide +kernel⟩ ⟨by decide +kernel, by decide +kernel⟩
      ⟨by decide +kernel, by decide +kernel⟩ (by simp) ?_ (by simp)
    intro late isLate nonempty
    exact absurd (List.suffix_nil.mp isLate) nonempty
  have unknown : ∀ entry ∈ entries line, filetype? entry.language = none := by
    rw [entries_of_isLine isLine]
    decide +kernel
  refine ⟨?_, isLine, unknown, unchanged line unknown⟩
  rw [together]
  decide +kernel

end TagTable

end Typeahead.Identifier

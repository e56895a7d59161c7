import Typeahead.Proofs.Acts
import Typeahead.Proofs.Overlap

namespace Typeahead.Insertion

/-! Completion items fitted to the text behind the cursor. What is inserted is the shortest start of the word whose
rest stands there already, and nothing else of an item changes. Items are also looked at as references into a memory
of records: fitting them makes new records and leaves those in memory as they are. -/

section Words

variable {word following start : List Char}

/-- Behind a start of the word, the text that follows the cursor has the rest of it. -/
def Completes (word following start : List Char) : Prop := ∃ rest, rest <+: following ∧ word = start ++ rest

theorem Completes.prefix_append (completes : Completes word following start) : word <+: start ++ following := by
  obtain ⟨rest, follows, rfl⟩ := completes
  exact (List.prefix_append_right_inj start).mpr follows

theorem completes_fitted (word following : List Char) : Completes word following (fitted word following) := by
  have overlap := (isGreatest_overlapLength word following).1
  refine ⟨ending (overlapLength word following) word, ?_, (List.take_append_drop _ word).symm⟩
  rw [overlap.same]
  exact List.take_prefix _ following

theorem fitted_prefix (completes : Completes word following start) : fitted word following <+: start := by
  obtain ⟨rest, follows, rfl⟩ := completes
  -- what the start leaves of the word is an overlap, so the longest one leaves no longer a start
  have overlap : Overlaps (start ++ rest) following rest.length := by
    refine Overlaps.of_same follows.length_le ?_
    rw [← List.prefix_iff_eq_take.mp follows, ending, List.length_append, Nat.add_sub_cancel, List.drop_left]
  have longest : rest.length ≤ overlapLength (start ++ rest) following :=
    (isGreatest_overlapLength (start ++ rest) following).2 overlap
  rw [fitted, List.length_append, List.take_append_of_le_length (by omega)]
  exact List.take_prefix _ start

end Words

/-- The word of an item: a text is its own word, a record has it in a field. -/
def wordOf? : Value → Option String
  | .text word => some word
  | .record fields => match fields.lookup "word" with
    | some (.text word) => some word
    | _ => none
  | _ => none

/-- What the fields of an item are once it is fitted to the text behind the cursor. -/
structure Fits (following : String) (item : Value) (fields : Value.Fields) : Prop where
  inserted : ∃ word start, wordOf? item = some word ∧ fields.lookup "word" = some (.text start) ∧
    Completes word.toList following.toList start.toList ∧ word.toList <+: start.toList ++ following.toList ∧
    ∀ other, Completes word.toList following.toList other → start.toList <+: other
  shown : ∀ word, wordOf? item = some word → fields.lookup "abbr" = some ((item.field? "abbr").getD (.text word))
  others : ∀ key, key ≠ "word" → key ≠ "abbr" → fields.lookup key = item.field? key

section Items

variable {following word : String} {item : Value} {fields : Value.Fields}

theorem lookup_of_wordOf? (isWord : wordOf? (.record fields) = some word) :
    fields.lookup "word" = some (.text word) := by
  rw [wordOf?] at isWord
  split at isWord
  · rename_i found
    cases isWord
    exact found
  · cases isWord

theorem fits_of_lookup (isWord : wordOf? item = some word)
    (inserted : fields.lookup "word" = some (.text (fittedText word following)))
    (shown : fields.lookup "abbr" = some ((item.field? "abbr").getD (.text word)))
    (others : ∀ key, key ≠ "word" → key ≠ "abbr" → fields.lookup key = item.field? key) :
    Fits following item fields where
  inserted := by
    refine ⟨word, fittedText word following, isWord, inserted, ?_⟩
    rw [fittedText, String.toList_ofList]
    have completes := completes_fitted word.toList following.toList
    exact ⟨completes, completes.prefix_append, fun other completes => fitted_prefix completes⟩
  shown := by
    intro other isOther
    rw [isWord] at isOther
    cases isOther
    exact shown
  others := others

/-- The fields of a record with what is shown for it, which is its word where it has nothing else. -/
def withShown (word : String) (fields : Value.Fields) : Value.Fields :=
  if Value.Fields.has fields "abbr" then fields else Value.Fields.set fields "abbr" (.text word)

theorem lookup_withShown_abbr (word : String) (fields : Value.Fields) :
    (withShown word fields).lookup "abbr" = some ((fields.lookup "abbr").getD (.text word)) := by
  unfold withShown Value.Fields.has Value.Fields.get?
  cases found : fields.lookup "abbr" with
  | some shown => simpa using found
  | none => exact Table.lookup_put_self "abbr" (.text word) fields

theorem lookup_withShown_other {key : String} (word : String) (fields : Value.Fields) (notAbbr : key ≠ "abbr") :
    (withShown word fields).lookup key = fields.lookup key := by
  unfold withShown
  split
  · rfl
  · exact Table.lookup_put_other (.text word) fields notAbbr

theorem lookup_withShown_word (found : fields.lookup "word" = some (.text word)) :
    (withShown word fields).lookup "word" = some (.text word) :=
  (lookup_withShown_other word fields (by decide)).trans found

def fittedFields (following word : String) : Value → Value.Fields
  | .record fields => Value.Fields.set (withShown word fields) "word" (.text (fittedText word following))
  | _ => [("abbr", .text word), ("word", .text (fittedText word following))]

theorem adjustItem?_eq (following : String) (isWord : wordOf? item = some word) :
    adjustItem? following item = .ok (some (.record (fittedFields following word item))) := by
  match item with
  | .text content =>
      cases isWord
      rfl
  | .record fields =>
      have found := lookup_of_wordOf? isWord
      have kept := lookup_withShown_word found
      rw [fittedFields]
      unfold withShown at kept ⊢
      simp only [adjustItem?, Value.field, found]
      cases has : Value.Fields.has fields "abbr" with
      | true => simp [bind, Except.bind, pure, Except.pure, found]
      | false =>
          simp only [has, Bool.false_eq_true, if_false] at kept ⊢
          simp [bind, Except.bind, pure, Except.pure, kept]

theorem fits_fittedFields (following : String) (isWord : wordOf? item = some word) :
    Fits following item (fittedFields following word item) := by
  match item with
  | .text content =>
      cases isWord
      refine fits_of_lookup rfl rfl rfl fun key notWord notAbbr => ?_
      simp [fittedFields, List.lookup_cons, beq_eq_false_iff_ne.mpr notWord, beq_eq_false_iff_ne.mpr notAbbr,
        Value.field?]
  | .record fields =>
      refine fits_of_lookup isWord (Table.lookup_put_self ..) ?_ ?_
      · rw [fittedFields, Value.Fields.set, Table.lookup_put_other _ _ (by decide), lookup_withShown_abbr]
        rfl
      · intro key notWord notAbbr
        rw [fittedFields, Value.Fields.set, Table.lookup_put_other _ _ notWord,
          lookup_withShown_other word fields notAbbr]
        rfl

def Made (following : String) (item : Value) (fields : Value.Fields) : Prop :=
  ∃ word, wordOf? item = some word ∧ fields = fittedFields following word item

theorem exists_made (following : String) {items : List Value} (words : ∀ item ∈ items, (wordOf? item).isSome) :
    ∃ records, List.Forall₂ (Made following) items records := by
  induction items with
  | nil => exact ⟨[], .nil⟩
  | cons item items ih =>
      obtain ⟨word, isWord⟩ := Option.isSome_iff_exists.mp (words item List.mem_cons_self)
      obtain ⟨records, made⟩ := ih fun other member => words other (List.mem_cons_of_mem item member)
      exact ⟨_ :: records, .cons ⟨word, isWord, rfl⟩ made⟩

theorem adjust_of_made {items : List Value} {records : List Value.Fields} (someText : following ≠ "")
    (made : List.Forall₂ (Made following) items records) :
    adjust following (.list items) = .ok (.list (records.map .record)) := by
  have each : items.mapM (adjustItem? following) = .ok (records.map fun fields => some (.record fields)) := by
    refine mapM_eq_ok_iff.mpr (List.forall₂_map_right_iff.mpr (made.imp fun item fields => ?_))
    rintro ⟨word, isWord, rfl⟩
    exact adjustItem?_eq following isWord
  have notEmpty : following.isEmpty = false := by simpa using someText
  have allKept : (records.map fun fields => some (Value.record fields)).filterMap id = records.map .record := by
    rw [List.filterMap_map]
    exact congrFun List.filterMap_eq_map records
  simp only [adjust, notEmpty, Bool.false_eq_true, if_false, Value.elements]
  change ((items.mapM (adjustItem? following)) >>= fun adjusted => pure (Value.list (adjusted.filterMap id))) = _
  rw [each]
  exact congrArg (fun kept => Except.ok (Value.list kept)) allKept

end Items

section References

/-- Records in memory, each at its place. -/
abbrev Memory := List Value.Fields

/-- An item as it is handed over: a text, or a record by its place in memory. -/
inductive Reference where
  | text (content : String)
  | record (place : Nat)

def Reference.value? (memory : Memory) : Reference → Option Value
  | .text content => some (.text content)
  | .record place => memory[place]?.map .record

namespace Memory

def create (fields : Value.Fields) : Act Memory Nat := do
  let memory ← get
  set (memory ++ [fields])
  return memory.length

def read (place : Nat) : Act Memory Value.Fields := do
  match (← get)[place]? with
  | some fields => return fields
  | none => throw .outOfRange

def write (place : Nat) (key : String) (value : Value) : Act Memory Unit :=
  modify fun memory => memory.modify place fun fields => fields.set key value

def giveShown (place : Nat) : Act Memory Unit := do
  let fields ← read place
  if !Value.Fields.has fields "abbr" then
    let word ← (Value.record fields).field "word"
    write place "abbr" word

def fitWord (following : String) (place : Nat) : Act Memory Unit := do
  let fields ← read place
  match ← (Value.record fields).field "word" with
  | .text word => write place "word" (.text (fittedText word following))
  | value => throw (value.wrongKind "object of type " " has no len()")

end Memory

/-- Fits an item. A record is copied, and it is the copy that is written to. -/
def adjustReference (following : String) : Reference → Act Memory Reference
  | .text word => do
    let place ← Memory.create [("abbr", .text word), ("word", .text (fittedText word following))]
    return .record place
  | .record place => do
    let copy ← Memory.create (← Memory.read place)
    Memory.giveShown copy
    Memory.fitWord following copy
    return .record copy

def adjustReferences (following : String) (references : List Reference) : Act Memory (List Reference) :=
  if following.isEmpty then return references else references.mapM (adjustReference following)

variable {memory : Memory} {reference : Reference} {fields : Value.Fields}

theorem Memory.run_read {place : Nat} (held : memory[place]? = some fields) :
    (read place).run.run memory = (.ok fields, memory) := by
  rw [read, Act.run_bind_ok (Act.run_get memory), held]
  rfl

theorem Memory.run_read_last (memory : Memory) (fields : Value.Fields) :
    (read memory.length).run.run (memory ++ [fields]) = (.ok fields, memory ++ [fields]) :=
  run_read (by simp)

theorem Memory.run_write_last (memory : Memory) (fields : Value.Fields) (key : String) (value : Value) :
    (write memory.length key value).run.run (memory ++ [fields]) = (.ok (), memory ++ [fields.set key value]) := by
  have written : (memory ++ [fields]).modify memory.length (fun fields => fields.set key value) =
      memory ++ [fields.set key value] := by
    induction memory with
    | nil => rfl
    | cons first rest ih => simpa using ih
  have modified : (write memory.length key value).run.run (memory ++ [fields]) =
      (.ok (), (memory ++ [fields]).modify memory.length fun fields => fields.set key value) := rfl
  rw [modified, written]

theorem Memory.run_word {word : String} (memory : Memory) (found : fields.lookup "word" = some (.text word)) :
    (liftM ((Value.record fields).field "word") : Act Memory Value).run.run memory = (.ok (.text word), memory) := by
  rw [Act.run_lift_except, Value.field, found]

theorem Memory.run_giveShown {word : String} (memory : Memory) (found : fields.lookup "word" = some (.text word)) :
    (giveShown memory.length).run.run (memory ++ [fields]) = (.ok (), memory ++ [withShown word fields]) := by
  rw [giveShown, Act.run_bind_ok (run_read_last memory fields), withShown]
  cases Value.Fields.has fields "abbr" with
  | true => rfl
  | false =>
      have isWord := run_word (memory ++ [fields]) found
      exact (Act.run_bind_ok isWord).trans (run_write_last memory fields "abbr" (.text word))

theorem Memory.run_fitWord {word : String} (following : String) (memory : Memory)
    (found : fields.lookup "word" = some (.text word)) :
    (fitWord following memory.length).run.run (memory ++ [fields]) =
      (.ok (), memory ++ [fields.set "word" (.text (fittedText word following))]) := by
  have isWord := run_word (memory ++ [fields]) found
  rw [fitWord, Act.run_bind_ok (run_read_last memory fields)]
  exact (Act.run_bind_ok isWord).trans (run_write_last memory fields "word" _)

theorem run_adjustReference {following word : String} {item : Value} (held : reference.value? memory = some item)
    (isWord : wordOf? item = some word) :
    (adjustReference following reference).run.run memory =
      (.ok (.record memory.length), memory ++ [fittedFields following word item]) := by
  cases reference with
  | text content =>
      cases held
      cases isWord
      rfl
  | record place =>
      obtain ⟨fields, atPlace, rfl⟩ := Option.map_eq_some_iff.mp held
      have found := lookup_of_wordOf? isWord
      have created : (Memory.create fields).run.run memory = (.ok memory.length, memory ++ [fields]) := rfl
      have shown := Memory.run_giveShown memory found
      have fitted := Memory.run_fitWord following memory (lookup_withShown_word found)
      rw [adjustReference, Act.run_bind_ok (Memory.run_read atPlace), Act.run_bind_ok created, Act.run_bind_ok shown,
        Act.run_bind_ok fitted]
      rfl

theorem Reference.value?_append {item : Value} (held : reference.value? memory = some item) (more : Memory) :
    reference.value? (memory ++ more) = some item := by
  cases reference with
  | text content => exact held
  | record place =>
      obtain ⟨fields, atPlace, rfl⟩ := Option.map_eq_some_iff.mp held
      have inside := (List.getElem?_eq_some_iff.mp atPlace).1
      exact Option.map_eq_some_iff.mpr ⟨fields, (List.getElem?_append_left inside).trans atPlace, rfl⟩

/-- Fitting items, one after another, makes their records at the end of memory and changes nothing else there. -/
theorem run_mapM_adjustReference {following : String} {references : List Reference} {items : List Value}
    {records : List Value.Fields}
    (held : List.Forall₂ (fun reference item => reference.value? memory = some item) references items)
    (made : List.Forall₂ (Made following) items records) :
    (references.mapM (adjustReference following)).run.run memory =
      (.ok ((List.range' memory.length records.length).map .record), memory ++ records) := by
  induction made generalizing memory references with
  | nil =>
      cases held
      rw [List.append_nil]
      rfl
  | @cons item fields items records first _ ih =>
      cases held with
      | @cons reference _ references _ heldFirst heldRest =>
          obtain ⟨word, isWord, rfl⟩ := first
          have rest := ih (heldRest.imp fun other value held =>
            Reference.value?_append held [fittedFields following word item])
          rw [List.mapM_cons, Act.run_bind_ok (run_adjustReference heldFirst isWord), Act.run_bind_ok rest,
            List.length_append, List.length_singleton, List.length_cons, List.range'_succ, List.append_assoc]
          rfl

end References

/-- Items that are texts or records with a word are fitted one by one, in their order. Their records are new ones, and
those in memory stay as they are. Where no text follows the cursor nothing is done. -/
theorem adjust_fits_each_item {items : List Value} (words : ∀ item ∈ items, (wordOf? item).isSome) :
    (∀ following, following ≠ "" → ∃ records : List Value.Fields,
      adjust following (.list items) = .ok (.list (records.map .record)) ∧
      List.Forall₂ (Fits following) items records ∧
      ∀ (memory : Memory) (references : List Reference),
        List.Forall₂ (fun reference item => reference.value? memory = some item) references items →
          (adjustReferences following references).run.run memory =
            (.ok ((List.range' memory.length records.length).map .record), memory ++ records)) ∧
    adjust "" (.list items) = .ok (.list items) ∧
    ∀ (memory : Memory) (references : List Reference),
      (adjustReferences "" references).run.run memory = (.ok references, memory) := by
  refine ⟨fun following someText => ?_, rfl, fun memory references => rfl⟩
  obtain ⟨records, made⟩ := exists_made following words
  refine ⟨records, adjust_of_made someText made, made.imp ?_, fun memory references held => ?_⟩
  · rintro item _ ⟨word, isWord, rfl⟩
    exact fits_fittedFields following isWord
  · have notEmpty : following.isEmpty = false := by simpa using someText
    rw [adjustReferences, notEmpty]
    exact run_mapM_adjustReference held made

theorem adjust_fits_each_item_before_bar :
    let plain : Value.Fields := [("word", .text "zoobar"), ("menu", .text "m")]
    let described : Value.Fields := [("abbr", .text "shown"), ("word", .text "ba")]
    let items : List Value := [.text "foobar", .record plain, .record described]
    let records : List Value.Fields := [[("abbr", .text "foobar"), ("word", .text "foo")],
      [("word", .text "zoo"), ("menu", .text "m"), ("abbr", .text "zoobar")],
      [("abbr", .text "shown"), ("word", .text "")]]
    adjust "bar" (.list items) = .ok (.list (records.map .record)) ∧
      List.Forall₂ (Fits "bar") items records ∧
      (adjustReferences "bar" [.text "foobar", .record 0, .record 1]).run.run [plain, described] =
        (.ok [.record 2, .record 3, .record 4], [plain, described] ++ records) := by
  intro plain described items records
  have words : ∀ item ∈ items, (wordOf? item).isSome := by
    simp only [items, List.forall_mem_cons]
    exact ⟨rfl, rfl, rfl, nofun⟩
  obtain ⟨fitted, _⟩ := adjust_fits_each_item words
  obtain ⟨made, adjusted, fits, run⟩ := fitted "bar" (by decide)
  have computed : adjust "bar" (.list items) = .ok (.list (records.map .record)) := by
    have first : fittedText "foobar" "bar" = "foo" := by decide +kernel
    have second : fittedText "zoobar" "bar" = "zoo" := by decide +kernel
    have third : fittedText "ba" "bar" = "" := by decide +kernel
    simp only [records, ← first, ← second, ← third]
    rfl
  have same : records = made := by
    have lists := Value.list.inj (Except.ok.inj (computed.symm.trans adjusted))
    exact (List.map_inj_right fun _ _ => Value.record.inj).mp lists
  subst same
  refine ⟨computed, fits, run [plain, described] _ (.cons rfl (.cons rfl (.cons rfl .nil)))⟩

end Typeahead.Insertion

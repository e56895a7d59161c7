import Mathlib.Data.List.Forall2
import Typeahead.Client.Diagnostics
import Typeahead.Proofs.Acts

namespace Typeahead

/-! Diagnostics by buffer and line. Grouping and sorting them neither loses any nor adds any. -/

theorem Table.flatMap_alter_perm {κ α β : Type} [BEq κ] [LawfulBEq κ] (items : κ → α → List β) (key : κ)
    (change : Option α → α) (added : List β)
    (adds : ∀ value : Option α, (items key (change value)).Perm ((value.map (items key)).getD [] ++ added))
    (table : List (κ × α)) :
    ((alter key change table).flatMap fun entry => items entry.1 entry.2).Perm
      ((table.flatMap fun entry => items entry.1 entry.2) ++ added) := by
  induction table with
  | nil => simpa [alter] using adds none
  | cons entry rest ih =>
      obtain ⟨name, value⟩ := entry
      by_cases same : name = key
      · subst same
        simp only [alter, beq_self_eq_true, if_true, List.flatMap_cons, List.append_assoc]
        have here := (adds (some value)).append_right (rest.flatMap fun entry => items entry.1 entry.2)
        refine here.trans ?_
        simp only [Option.map_some, Option.getD_some, List.append_assoc]
        exact List.perm_append_comm.append_left _
      · simp only [alter, beq_eq_false_iff_ne.mpr same, Bool.false_eq_true, if_false, List.flatMap_cons, List.append_assoc]
        exact ih.append_left _

theorem flatMap_perm_of_forall₂ {α β : Type} {items : α → List β} {first second : List α}
    (same : List.Forall₂ (fun before after => (items after).Perm (items before)) first second) :
    (second.flatMap items).Perm (first.flatMap items) := by
  induction same with
  | nil => exact .nil
  | cons here _ ih =>
      simp only [List.flatMap_cons]
      exact here.append ih

namespace Table

section Entries

variable {κ α β : Type} [BEq κ] {relation : α → β → Prop} {table : List (κ × α)} {made : List (κ × β)}

omit [BEq κ] in
theorem keys_of_forall₂
    (each : List.Forall₂ (fun before after => before.1 = after.1 ∧ relation before.2 after.2) table made) :
    made.map (·.1) = table.map (·.1) := by
  induction each with
  | nil => rfl
  | cons first _ ih => simp [first.1, ih]

theorem lookup_of_forall₂
    (each : List.Forall₂ (fun before after => before.1 = after.1 ∧ relation before.2 after.2) table made) (key : κ) :
    Option.Rel relation (table.lookup key) (made.lookup key) := by
  induction each with
  | nil => exact .none
  | @cons before after _ _ first _ ih =>
      rw [List.lookup_cons, List.lookup_cons, first.1]
      cases key == after.1 with
      | true => exact .some first.2
      | false => exact ih

/-- What holds for all entries and for a changed one holds for all afterwards. -/
theorem forall_alter {property : α → Prop} {key : κ} {change : Option α → α}
    (changes : ∀ value, (∀ held ∈ value, property held) → property (change value))
    (all : ∀ entry ∈ table, property entry.2) : ∀ entry ∈ alter key change table, property entry.2 := by
  induction table with
  | nil => simpa [alter] using changes none
  | cons first rest ih =>
      obtain ⟨here, later⟩ := List.forall_mem_cons.mp all
      rw [alter]
      split
      · exact List.forall_mem_cons.mpr ⟨changes (some first.2) (by simpa using here), later⟩
      · exact List.forall_mem_cons.mpr ⟨here, ih later⟩

variable [LawfulBEq κ]

/-- If only one key has items, they are those of its entry. -/
theorem flatMap_eq_of_only {items : κ → α → List β} {key : κ} (only : ∀ name value, name ≠ key → items name value = [])
    (distinct : (table.map (·.1)).Nodup) :
    (table.flatMap fun entry => items entry.1 entry.2) = ((table.lookup key).map (items key)).getD [] := by
  induction table with
  | nil => rfl
  | cons entry rest ih =>
      obtain ⟨name, value⟩ := entry
      obtain ⟨absent, restDistinct⟩ := List.nodup_cons.mp distinct
      rw [List.flatMap_cons, ih restDistinct]
      by_cases same : name = key
      · subst same
        have notLater : rest.lookup name = none := by
          rw [List.lookup_eq_none_iff]
          intro entry member
          simpa using fun same => absent (List.mem_map.mpr ⟨entry, member, same.symm⟩)
        simp [notLater]
      · simp [only name value same, List.lookup_cons, beq_eq_false_iff_ne.mpr (Ne.symm same)]

end Entries

end Table

namespace Client.Diagnostics

/-- A diagnostic with the buffer and the line that it is in. -/
structure Spot where
  buffer : Int
  line : Int
  diagnostic : Value

def spotsOf (buffer : Int) (lines : Lines) : List Spot :=
  lines.flatMap fun entry => entry.2.map fun diagnostic => ⟨buffer, entry.1, diagnostic⟩

def spots (groups : Groups) : List Spot := groups.flatMap fun entry => spotsOf entry.1 entry.2

def insertSpot (groups : Groups) (spot : Spot) : Groups := insert spot.buffer spot.line spot.diagnostic groups

theorem spots_insertSpot_perm (groups : Groups) (spot : Spot) :
    (spots (insertSpot groups spot)).Perm (spots groups ++ [spot]) := by
  obtain ⟨buffer, line, diagnostic⟩ := spot
  refine Table.flatMap_alter_perm spotsOf buffer _ _ ?_ groups
  intro lines
  let inLine (line : Int) (diagnostics : List Value) : List Spot := diagnostics.map fun found => ⟨buffer, line, found⟩
  have adds (found : Option (List Value)) : (inLine line (found.getD [] ++ [diagnostic])).Perm
      ((found.map (inLine line)).getD [] ++ [⟨buffer, line, diagnostic⟩]) := by
    cases found <;> simp [inLine]
  have added := Table.flatMap_alter_perm inLine line _ _ adds (lines.getD [])
  cases lines with
  | none => exact added
  | some lines => exact added

theorem spots_foldl_insertSpot_perm (found : List Spot) (groups : Groups) :
    (spots (found.foldl insertSpot groups)).Perm (spots groups ++ found) := by
  induction found generalizing groups with
  | nil => simp
  | cons spot found ih =>
      have first := (spots_insertSpot_perm groups spot).append_right found
      rw [List.append_assoc] at first
      exact (ih (insertSpot groups spot)).trans first

theorem mem_keys_foldl_insertSpot (found : List Spot) (groups : Groups) (buffer : Int) :
    buffer ∈ (found.foldl insertSpot groups).map (·.1) ↔
      (∃ spot ∈ found, spot.buffer = buffer) ∨ buffer ∈ groups.map (·.1) := by
  induction found generalizing groups with
  | nil => simp
  | cons spot found ih =>
      have first : buffer ∈ (insertSpot groups spot).map (·.1) ↔ buffer = spot.buffer ∨ buffer ∈ groups.map (·.1) :=
        Table.mem_keys_alter _ _ _
      rw [List.foldl_cons, ih, first, List.exists_mem_cons_iff, or_assoc, or_left_comm, eq_comm]

theorem nodup_keys_foldl_insertSpot (found : List Spot) {groups : Groups} (distinct : (groups.map (·.1)).Nodup) :
    ((found.foldl insertSpot groups).map (·.1)).Nodup := by
  induction found generalizing groups with
  | nil => exact distinct
  | cons spot found ih => exact ih (Table.nodup_keys_alter _ _ distinct)

section Buffers

variable {buffer first : Int} {lines : Lines} {rest : Groups}

theorem buffer_of_mem_spotsOf {spot : Spot} (member : spot ∈ spotsOf buffer lines) : spot.buffer = buffer := by
  obtain ⟨_, _, here⟩ := List.mem_flatMap.mp member
  obtain ⟨_, _, rfl⟩ := List.mem_map.mp here
  rfl

theorem filter_spotsOf_self : (spotsOf buffer lines).filter (·.buffer = buffer) = spotsOf buffer lines := by
  rw [List.filter_eq_self]
  intro spot member
  simp [buffer_of_mem_spotsOf member]

theorem filter_spotsOf_other (different : buffer ≠ first) : (spotsOf first lines).filter (·.buffer = buffer) = [] := by
  rw [List.filter_eq_nil_iff]
  intro spot member
  simpa [buffer_of_mem_spotsOf member] using different.symm

theorem filter_spots_of_absent (absent : buffer ∉ rest.map (·.1)) : (spots rest).filter (·.buffer = buffer) = [] := by
  rw [List.filter_eq_nil_iff]
  intro spot member
  obtain ⟨entry, among, here⟩ := List.mem_flatMap.mp member
  have isKey := buffer_of_mem_spotsOf here
  intro same
  refine absent (List.mem_map.mpr ⟨entry, among, ?_⟩)
  rw [← isKey]
  simpa using same

theorem filter_spots_cons : (spots ((first, lines) :: rest)).filter (·.buffer = buffer) =
    (spotsOf first lines).filter (·.buffer = buffer) ++ (spots rest).filter (·.buffer = buffer) :=
  List.filter_append _ _

end Buffers

section Sorting

/-- What can be sorted and marked has a kind. -/
def HasKind (diagnostic : Value) : Prop := ∃ kind, diagnostic.field "kind" = .ok kind

theorem hasKind_of_sortKey {diagnostic : Value} {key : Value × Value} (done : sortKey diagnostic = .ok key) :
    HasKind diagnostic := by
  obtain ⟨location, _, done⟩ := bind_eq_ok_iff.mp done
  obtain ⟨column, _, done⟩ := bind_eq_ok_iff.mp done
  obtain ⟨kind, found, _⟩ := bind_eq_ok_iff.mp done
  exact ⟨kind, found⟩

theorem perm_of_sorted {diagnostics shown : List Value} (done : sorted diagnostics = .ok shown) :
    shown.Perm diagnostics ∧ ∀ diagnostic ∈ diagnostics, HasKind diagnostic := by
  obtain ⟨keyed, read, done⟩ := bind_eq_ok_iff.mp done
  obtain ⟨_, _, done⟩ := bind_eq_ok_iff.mp done
  cases done
  constructor
  · have same : List.Forall₂ Eq diagnostics (keyed.map (·.2)) := by
      rw [List.forall₂_map_right_iff]
      refine (mapM_eq_ok_iff.mp read).imp fun diagnostic entry made => ?_
      obtain ⟨key, _, made⟩ := bind_eq_ok_iff.mp made
      cases made
      rfl
    rw [List.forall₂_eq_eq_eq] at same
    rw [same]
    exact (List.mergeSort_perm keyed _).map _
  · intro diagnostic member
    obtain ⟨entry, made⟩ := exists_read_of_mapM_ok read member
    obtain ⟨key, found, _⟩ := bind_eq_ok_iff.mp made
    exact hasKind_of_sortKey found

theorem spotsOf_sorted {lines shown : Lines} (buffer : Int)
    (done : (lines.mapM fun (line, diagnostics) => do return (line, ← sorted diagnostics)) = .ok shown) :
    (spotsOf buffer shown).Perm (spotsOf buffer lines) ∧ ∀ spot ∈ spotsOf buffer lines, HasKind spot.diagnostic := by
  constructor
  · refine flatMap_perm_of_forall₂ ((mapM_eq_ok_iff.mp done).imp fun before after made => ?_)
    obtain ⟨found, isSorted, made⟩ := bind_eq_ok_iff.mp made
    cases made
    exact (perm_of_sorted isSorted).1.map _
  · intro spot member
    obtain ⟨entry, among, here⟩ := List.mem_flatMap.mp member
    obtain ⟨diagnostic, listed, rfl⟩ := List.mem_map.mp here
    obtain ⟨_, made⟩ := exists_read_of_mapM_ok done among
    obtain ⟨found, isSorted, _⟩ := bind_eq_ok_iff.mp made
    exact (perm_of_sorted isSorted).2 diagnostic listed

/-- Sorting turns the first diagnostics into the second. -/
def Sorts (found shown : List Value) : Prop := sorted found = .ok shown

/-- Sorting keeps the entries, and sorts the diagnostics of each line. -/
theorem entries_of_sortedGroups {groups shown : Groups} (done : sortedGroups groups = .ok shown) :
    List.Forall₂ (fun before after => before.1 = after.1 ∧
      List.Forall₂ (fun before after => before.1 = after.1 ∧ Sorts before.2 after.2) before.2 after.2)
      groups shown := by
  refine (mapM_eq_ok_iff.mp done).imp fun before after made => ?_
  obtain ⟨lines, areSorted, made⟩ := bind_eq_ok_iff.mp made
  cases made
  refine ⟨rfl, (mapM_eq_ok_iff.mp areSorted).imp fun before after made => ?_⟩
  obtain ⟨found, isSorted, made⟩ := bind_eq_ok_iff.mp made
  cases made
  exact ⟨rfl, isSorted⟩

theorem exists_sortedGroups {groups : Groups}
    (each : ∀ buffer ∈ groups, ∀ line ∈ buffer.2, ∃ shown, sorted line.2 = .ok shown) :
    ∃ shown, sortedGroups groups = .ok shown := by
  apply exists_mapM_ok
  intro buffer isBuffer
  have lines : ∃ found, (buffer.2.mapM fun (line, diagnostics) => do return (line, ← sorted diagnostics)) = .ok found := by
    apply exists_mapM_ok
    intro line isLine
    obtain ⟨shown, isSorted⟩ := each buffer isBuffer line isLine
    exact ⟨(line.1, shown), bind_eq_ok_iff.mpr ⟨shown, isSorted, rfl⟩⟩
  obtain ⟨found, areSorted⟩ := lines
  exact ⟨(buffer.1, found), bind_eq_ok_iff.mpr ⟨found, areSorted, rfl⟩⟩

theorem spots_sortedGroups {groups shown : Groups} (done : sortedGroups groups = .ok shown) :
    shown.map (·.1) = groups.map (·.1) ∧ (spots shown).Perm (spots groups) ∧
      ∀ spot ∈ spots groups, HasKind spot.diagnostic := by
  have each := mapM_eq_ok_iff.mp done
  refine ⟨?_, ?_, ?_⟩
  · exact Table.keys_of_forall₂ (entries_of_sortedGroups done)
  · refine flatMap_perm_of_forall₂ (each.imp fun before after made => ?_)
    obtain ⟨lines, areSorted, made⟩ := bind_eq_ok_iff.mp made
    cases made
    exact (spotsOf_sorted before.1 areSorted).1
  · intro spot member
    obtain ⟨entry, among, here⟩ := List.mem_flatMap.mp member
    obtain ⟨_, made⟩ := exists_read_of_mapM_ok done among
    obtain ⟨lines, areSorted, _⟩ := bind_eq_ok_iff.mp made
    exact (spotsOf_sorted entry.1 areSorted).2 spot here

/-- The groups of diagnostics have one entry for each buffer that is named, and hold what has been found. -/
theorem groups_of_sorted {found : List Spot} {groups : Groups}
    (done : sortedGroups (found.foldl insertSpot []) = .ok groups) :
    (groups.map (·.1)).Nodup ∧ (∀ buffer, buffer ∈ groups.map (·.1) ↔ ∃ spot ∈ found, spot.buffer = buffer) ∧
      (spots groups).Perm found ∧ ∀ spot ∈ found, HasKind spot.diagnostic := by
  obtain ⟨sameKeys, moved, kinds⟩ := spots_sortedGroups done
  have inserted : (spots (found.foldl insertSpot [])).Perm found := spots_foldl_insertSpot_perm found []
  refine ⟨?_, ?_, moved.trans inserted, fun spot member => kinds spot (inserted.mem_iff.mpr member)⟩
  · rw [sameKeys]
    exact nodup_keys_foldl_insertSpot found List.nodup_nil
  · intro buffer
    rw [sameKeys, mem_keys_foldl_insertSpot]
    simp

end Sorting

section Buckets

variable {groups shown : Groups}

/-- The diagnostics of a line. -/
def bucket (groups : Groups) (buffer line : Int) : List Value := (((groups.lookup buffer).getD []).lookup line).getD []

def Spot.isAt (buffer line : Int) (spot : Spot) : Bool := decide (spot.buffer = buffer) && decide (spot.line = line)

theorem bucket_insertSpot (groups : Groups) (spot : Spot) (buffer line : Int) :
    bucket (insertSpot groups spot) buffer line =
      bucket groups buffer line ++ if spot.isAt buffer line then [spot.diagnostic] else [] := by
  by_cases sameBuffer : spot.buffer = buffer
  · subst sameBuffer
    by_cases sameLine : spot.line = line
    · subst sameLine
      simp [bucket, insertSpot, insert, Spot.isAt, Table.lookup_alter_self]
    · simp [bucket, insertSpot, insert, Spot.isAt, sameLine, Table.lookup_alter_self,
        Table.lookup_alter_other _ _ (Ne.symm sameLine)]
  · simp [bucket, insertSpot, insert, Spot.isAt, sameBuffer, Table.lookup_alter_other _ _ (Ne.symm sameBuffer)]

theorem bucket_foldl_insertSpot (found : List Spot) (groups : Groups) (buffer line : Int) :
    bucket (found.foldl insertSpot groups) buffer line =
      bucket groups buffer line ++ (found.filter (Spot.isAt buffer line)).map (·.diagnostic) := by
  induction found generalizing groups with
  | nil => simp
  | cons spot found ih =>
      rw [List.foldl_cons, ih, bucket_insertSpot, List.filter_cons]
      cases spot.isAt buffer line <;> simp

theorem sorted_bucket (done : sortedGroups groups = .ok shown) (buffer line : Int) :
    sorted (bucket groups buffer line) = .ok (bucket shown buffer line) := by
  have empty : sorted [] = .ok [] := by simp [sorted, bind, Except.bind, pure, Except.pure]
  have buffers := Table.lookup_of_forall₂ (entries_of_sortedGroups done) buffer
  unfold bucket
  generalize groups.lookup buffer = before, shown.lookup buffer = after at buffers
  cases buffers with
  | none => exact empty
  | @some before after lines =>
      have found := Table.lookup_of_forall₂ lines line
      simp only [Option.getD_some]
      generalize before.lookup line = before, after.lookup line = after at found
      cases found with
      | none => exact empty
      | some isSorted => exact isSorted

/-- Every buffer has one entry, and every line of it. -/
structure Distinct (groups : Groups) : Prop where
  buffers : (groups.map (·.1)).Nodup
  lines : ∀ entry ∈ groups, (entry.2.map (·.1)).Nodup

theorem Distinct.insertSpot (distinct : Distinct groups) (spot : Spot) : Distinct (insertSpot groups spot) := by
  refine ⟨Table.nodup_keys_alter _ _ distinct.buffers, ?_⟩
  have changed (lines : Option Lines) (distinct : ∀ held ∈ lines, (held.map (·.1)).Nodup) : ((Table.alter spot.line
      (fun found => found.getD [] ++ [spot.diagnostic]) (lines.getD [])).map (·.1)).Nodup := by
    apply Table.nodup_keys_alter
    cases lines with
    | none => exact List.nodup_nil
    | some held => exact distinct held rfl
  exact Table.forall_alter changed distinct.lines

theorem distinct_foldl_insertSpot (found : List Spot) (distinct : Distinct groups) :
    Distinct (found.foldl insertSpot groups) := by
  induction found generalizing groups with
  | nil => exact distinct
  | cons spot found ih => exact ih (distinct.insertSpot spot)

theorem Distinct.sortedGroups (distinct : Distinct groups) (done : sortedGroups groups = .ok shown) :
    Distinct shown := by
  have each := entries_of_sortedGroups done
  constructor
  · rw [Table.keys_of_forall₂ each]
    exact distinct.buffers
  · have lines := distinct.lines
    clear done distinct
    induction each with
    | nil => simp
    | cons first _ ih =>
        obtain ⟨here, later⟩ := List.forall_mem_cons.mp lines
        refine List.forall_mem_cons.mpr ⟨?_, ih later⟩
        rw [Table.keys_of_forall₂ first.2]
        exact here

theorem filter_spotsOf_isAt {lines : Lines} (distinct : (lines.map (·.1)).Nodup) (buffer line : Int) :
    (spotsOf buffer lines).filter (Spot.isAt buffer line) =
      ((lines.lookup line).getD []).map fun diagnostic => ⟨buffer, line, diagnostic⟩ := by
  let standing (name : Int) (diagnostics : List Value) : List Spot :=
    (diagnostics.map fun diagnostic => ⟨buffer, name, diagnostic⟩).filter (Spot.isAt buffer line)
  have only (name : Int) (diagnostics : List Value) (different : name ≠ line) : standing name diagnostics = [] := by
    simp [standing, List.filter_map, Function.comp_def, Spot.isAt, different]
  have here (diagnostics : List Value) : standing line diagnostics =
      diagnostics.map fun diagnostic => ⟨buffer, line, diagnostic⟩ := by
    simp [standing, List.filter_map, Function.comp_def, Spot.isAt]
  rw [spotsOf, List.filter_flatMap]
  refine (Table.flatMap_eq_of_only only distinct).trans ?_
  cases lines.lookup line with
  | none => rfl
  | some diagnostics => exact here diagnostics

/-- The diagnostics of a line are those that stand there. -/
theorem filter_spots_isAt (distinct : Distinct groups) (buffer line : Int) :
    (spots groups).filter (Spot.isAt buffer line) =
      (bucket groups buffer line).map fun diagnostic => ⟨buffer, line, diagnostic⟩ := by
  have only (name : Int) (lines : Lines) (different : name ≠ buffer) :
      (spotsOf name lines).filter (Spot.isAt buffer line) = [] := by
    rw [List.filter_eq_nil_iff]
    intro spot member
    simp [Spot.isAt, buffer_of_mem_spotsOf member, different]
  rw [spots, List.filter_flatMap]
  refine (Table.flatMap_eq_of_only only distinct.buffers).trans ?_
  unfold bucket
  cases found : groups.lookup buffer with
  | none => rfl
  | some lines =>
      have member := (Table.mem_iff_lookup distinct.buffers).mpr found
      exact filter_spotsOf_isAt (distinct.lines _ member) buffer line

/-- The first diagnostic that stands in a line is the first one of it. -/
theorem find?_spots_isAt {buffer line : Int} {first : Value} {rest : List Value} (distinct : Distinct groups)
    (starts : bucket groups buffer line = first :: rest) :
    (spots groups).find? (Spot.isAt buffer line) = some ⟨buffer, line, first⟩ := by
  rw [← List.head?_filter, filter_spots_isAt distinct, starts]
  rfl

end Buckets

end Client.Diagnostics

end Typeahead

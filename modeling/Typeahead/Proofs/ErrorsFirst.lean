import Typeahead.Proofs.SignUpdates

namespace Typeahead.Client.Diagnostics

open Editor

/-! In which order the diagnostics of a line are listed. They are sorted by their columns, and by their kinds only
where the columns agree, so a warning stands before every error that is further right. The first one of a line has the
first sign there, and its text is the one that is shown. -/

section Reports

/-- A diagnostic that is an error or a warning. Its line and its column count from 0. -/
structure Report where
  value : Value
  location : Value
  path : String
  line : Int
  column : Int
  isError : Bool
  hasLocation : value.field "location" = .ok location
  hasPath : location.field "filepath" = .ok (.text path)
  hasLine : location.field "line_num" = .ok (.int line)
  hasColumn : location.field "column_num" = .ok (.int column)
  hasKind : value.field "kind" = .ok (.text (if isError then "E" else "W"))

namespace Report

variable (report left right : Report)

/-- One may stand before the other: it is further left, or in the same column and not a warning before an error. -/
def comesBefore : Bool :=
  decide (left.column < right.column ∨ left.column = right.column ∧ (right.isError = true → left.isError = true))

def key : Value × Value := (.int report.column, .text (if report.isError then "E" else "W"))

def spot (number : String → Int) (report : Report) : Spot := ⟨number report.path, report.line + 1, report.value⟩

theorem sortKey_eq : sortKey report.value = .ok report.key := by
  simp only [sortKey, report.hasLocation, report.hasColumn, report.hasKind, bind, Except.bind, pure, Except.pure, key]

theorem isError_eq : Diagnostics.isError report.value = .ok report.isError := by
  have same : (Value.text (if report.isError then "E" else "W")).same (.text "E") = report.isError := by
    cases report.isError with
    | true => rfl
    | false => rfl
  simp only [Diagnostics.isError, report.hasKind, bind, Except.bind, pure, Except.pure, same]

theorem comesBefore_iff : left.comesBefore right = true ↔
    left.column < right.column ∨ left.column = right.column ∧ (right.isError = true → left.isError = true) :=
  decide_eq_true_iff

theorem keyLess_eq : keyLess left.key right.key = .ok (!right.comesBefore left) := by
  have sameColumn : (Value.int left.column).same (.int right.column) = (left.column == right.column) := rfl
  have lessColumn : (Value.int left.column).less (.int right.column) = .ok (decide (left.column < right.column)) := rfl
  have lessKind : (if (Value.text (if left.isError then "E" else "W")).same
      (.text (if right.isError then "E" else "W")) then Except.ok false
      else (Value.text (if left.isError then "E" else "W")).less (.text (if right.isError then "E" else "W"))) =
      .ok (left.isError && !right.isError) := by
    cases left.isError <;> cases right.isError <;> rfl
  unfold keyLess
  simp only [key, sameColumn, lessColumn]
  by_cases same : left.column = right.column
  · have order : (!right.comesBefore left) = (left.isError && !right.isError) := by simp [comesBefore, same]
    rw [order, if_pos (beq_iff_eq.mpr same)]
    exact lessKind
  · have order : (!right.comesBefore left) = decide (left.column < right.column) := by
      rw [Bool.eq_iff_iff, Bool.not_eq_true', ← Bool.not_eq_true, comesBefore_iff, decide_eq_true_iff]
      omega
    rw [order, if_neg (mt beq_iff_eq.mp same)]

theorem keyOrdered_eq : keyOrdered left.key right.key = left.comesBefore right := by
  rw [keyOrdered, keyLess_eq]
  cases left.comesBefore right <;> rfl

theorem spotAt_eq {scene : Workspace} {number : String → Int}
    (numbered : bufferOf scene (.text report.path) = .ok (number report.path)) :
    spotAt scene report.value = .ok (report.spot number) := by
  have next : (Value.int report.line).plus (.int 1) = .ok (.int (report.line + 1)) := rfl
  have isInt : (Value.int (report.line + 1)).asInt = .ok (report.line + 1) := rfl
  simp only [spotAt, report.hasLocation, report.hasPath, numbered, report.hasLine, next, isInt, bind, Except.bind, pure,
    Except.pure, spot]

end Report

open Report

theorem pairwise_comesBefore (reports : List Report) :
    (reports.mergeSort comesBefore).Pairwise fun left right => left.comesBefore right = true := by
  apply List.pairwise_mergeSort
  · intro first second third
    simp only [comesBefore_iff]
    grind
  · intro left right
    rw [Bool.or_eq_true, comesBefore_iff, comesBefore_iff]
    grind

/-- Reports are sorted by column, and errors come before warnings in the same column. -/
theorem sorted_values (reports : List Report) :
    sorted (reports.map (·.value)) = .ok ((reports.mergeSort comesBefore).map (·.value)) := by
  let keyed (report : Report) : (Value × Value) × Value := (report.key, report.value)
  have read : ((reports.map (·.value)).mapM fun diagnostic => do return (← sortKey diagnostic, diagnostic)) =
      .ok (reports.map keyed) := by
    rw [mapM_eq_ok_iff, List.forall₂_map_left_iff, List.forall₂_map_right_iff, List.forall₂_same]
    intro report _
    exact bind_eq_ok_iff.mpr ⟨report.key, report.sortKey_eq, rfl⟩
  have comparable : ((reports.map keyed).forM fun left => (reports.map keyed).forM fun right => do
      let _ ← keyLess left.1 right.1) = .ok () := by
    apply forM_eq_ok
    intro left isLeft
    apply forM_eq_ok
    intro right isRight
    obtain ⟨left, _, rfl⟩ := List.mem_map.mp isLeft
    obtain ⟨right, _, rfl⟩ := List.mem_map.mp isRight
    exact bind_eq_ok_iff.mpr ⟨_, keyLess_eq left right, rfl⟩
  have order := List.map_mergeSort (f := keyed) (r := comesBefore) (l := reports)
    (s := fun left right => keyOrdered left.1 right.1) fun left _ right _ => (keyOrdered_eq left right).symm
  refine bind_eq_ok_iff.mpr ⟨_, read, bind_eq_ok_iff.mpr ⟨(), comparable, ?_⟩⟩
  rw [← order, List.map_map]
  rfl

end Reports

section Order

variable {listed : List Report}

/-- No warning stands before an error. -/
def ErrorsFirst (listed : List Report) : Prop :=
  listed.Pairwise fun earlier later => later.isError = true → earlier.isError = true

theorem errorsFirst_iff (ordered : listed.Pairwise fun left right => left.comesBefore right = true) :
    ErrorsFirst listed ↔ ∀ error ∈ listed, ∀ warning ∈ listed, error.isError = true → warning.isError = false →
      error.column ≤ warning.column := by
  simp only [Report.comesBefore_iff] at ordered
  constructor
  · intro errorsFirst
    have both := ordered.and errorsFirst
    apply List.Pairwise.forall_of_forall_of_flip
    · intro report _ _ _
      exact Int.le_refl _
    · apply both.imp
      intro earlier later holds isError isWarning
      omega
    · apply both.imp
      intro earlier later holds isError isWarning
      rw [holds.2 isError] at isWarning
      cases isWarning
  · intro further
    apply ordered.imp_of_mem
    intro earlier later isEarlier isLater order isError
    by_contra isWarning
    have right := further later isLater earlier isEarlier isError (Bool.eq_false_iff.mpr isWarning)
    obtain left | same := order
    · omega
    · exact isWarning (same.2 isError)

theorem first_isError_iff {first : Report} (ordered : listed.Pairwise fun left right => left.comesBefore right = true)
    (isFirst : first ∈ listed.head?) :
    first.isError = true ↔ ∃ error ∈ listed, error.isError = true ∧ ∀ other ∈ listed, error.column ≤ other.column := by
  simp only [Report.comesBefore_iff] at ordered
  obtain ⟨rest, rfl⟩ := List.head?_eq_some_iff.mp isFirst
  obtain ⟨before, _⟩ := List.pairwise_cons.mp ordered
  constructor
  · intro isError
    refine ⟨first, List.mem_cons_self, isError, List.forall_mem_cons.mpr ⟨Int.le_refl _, ?_⟩⟩
    intro other isOther
    have order := before other isOther
    omega
  · intro ⟨error, isMember, isError, leftmost⟩
    obtain same | later := List.mem_cons.mp isMember
    · rw [← same]
      exact isError
    · have order := before error later
      have notLeft := leftmost first List.mem_cons_self
      obtain left | same := order
      · omega
      · exact same.2 isError

end Order

section Listing

variable {scene : Workspace} {reports : List Report} {number : String → Int} {groups : Groups} {first : Report}

/-- The editor has a buffer for every file with diagnostics, and knows which buffers are shown. -/
structure Knows (scene : Workspace) (reports : List Report) (number : String → Int) : Prop where
  numbered : ∀ report ∈ reports, bufferOf scene (.text report.path) = .ok (number report.path)
  windowed : ∀ report ∈ reports, ∃ window,
    intAnswerTo scene ("bufwinnr(" ++ toString (number report.path) ++ ")") = .ok window
  current : ∃ buffer, currentNumber scene = .ok buffer

def reportsAt (reports : List Report) (number : String → Int) (buffer line : Int) : List Report :=
  reports.filter fun report => (report.spot number).isAt buffer line

/-- Groups that are made of reports, one after another, and sorted then. -/
def Collects (reports : List Report) (number : String → Int) (groups : Groups) : Prop :=
  sortedGroups ((reports.map (Report.spot number)).foldl insertSpot []) = .ok groups

theorem exists_collects (reports : List Report) (number : String → Int) : ∃ groups, Collects reports number groups := by
  let placed := (reports.map (Report.spot number)).foldl insertSpot []
  have inserted : (spots placed).Perm (reports.map (Report.spot number)) :=
    spots_foldl_insertSpot_perm (reports.map (Report.spot number)) []
  apply exists_sortedGroups
  intro buffer isBuffer line isLine
  -- all that has been placed are reports, and these can be sorted
  have areReports : line.2 ∈ Set.range (List.map Report.value) := by
    rw [Set.range_list_map]
    intro diagnostic listed
    have standing : (⟨buffer.1, line.1, diagnostic⟩ : Spot) ∈ spots placed := List.mem_flatMap.mpr
      ⟨buffer, isBuffer, List.mem_flatMap.mpr ⟨line, isLine, List.mem_map_of_mem listed⟩⟩
    obtain ⟨report, _, same⟩ := List.mem_map.mp (inserted.mem_iff.mp standing)
    exact ⟨report, congrArg Spot.diagnostic same⟩
  obtain ⟨listed, same⟩ := areReports
  rw [← same]
  exact ⟨_, sorted_values listed⟩

theorem Collects.bucket_eq (collects : Collects reports number groups) (buffer line : Int) :
    bucket groups buffer line = ((reportsAt reports number buffer line).mergeSort Report.comesBefore).map (·.value) := by
  have placed := bucket_foldl_insertSpot (reports.map (Report.spot number)) [] buffer line
  have values : ((reports.map (Report.spot number)).filter (Spot.isAt buffer line)).map (·.diagnostic) =
      (reportsAt reports number buffer line).map (·.value) := by
    rw [List.filter_map, List.map_map]
    rfl
  have ordered := sorted_bucket collects buffer line
  rw [placed, values, show bucket [] buffer line = [] from rfl, List.nil_append] at ordered
  exact Except.ok.inj (ordered.symm.trans (sorted_values _))

theorem Collects.distinct (collects : Collects reports number groups) : Distinct groups := by
  have empty : Distinct [] := ⟨List.nodup_nil, by simp⟩
  exact (distinct_foldl_insertSpot _ empty).sortedGroups collects

theorem spotsIn_values
    (numbered : ∀ report ∈ reports, bufferOf scene (.text report.path) = .ok (number report.path)) :
    spotsIn scene (.list (reports.map (·.value))) = .ok (reports.map (Report.spot number)) := by
  refine bind_eq_ok_iff.mpr ⟨_, rfl, ?_⟩
  rw [mapM_eq_ok_iff, List.forall₂_map_left_iff, List.forall₂_map_right_iff, List.forall₂_same]
  exact fun report isReport => report.spotAt_eq (numbered report isReport)

/-- An act has a value in a scene, and only adds events. -/
def Answers (scene : Workspace) {α : Type} (act : Act Workspace α) (value : α) : Prop :=
  ∀ events, ∃ added, act.run.run { scene with events } = (.ok value, { scene with events := events ++ added })

theorem Collects.answers (collects : Collects reports number groups)
    (numbered : ∀ report ∈ reports, bufferOf scene (.text report.path) = .ok (number report.path)) :
    Answers scene (grouped (.list (reports.map (·.value)))) groups := by
  intro events
  have read := spotsIn_values numbered
  obtain ⟨found, added, running, _, others, again, isSorted⟩ :=
    (succeeds_grouped read collects).emitting (emits_grouped _) events
  cases read.symm.trans again
  cases isSorted.symm.trans collects
  exact ⟨added, running⟩

/-- When the signs have been updated, the first one in a line of a buffer that is shown is for an error or not. -/
def FirstSign (scene : Workspace) (groups : Groups) (buffer line : Int) (isError : Bool) : Prop :=
  ∀ next events, ∃ later added,
    (updateSigns groups next).run.run { scene with events } = (.ok later, { scene with events := events ++ added }) ∧
    ∀ signs, Below next signs → shows scene buffer = true →
      (marksIn (carryOut (signCommands added) signs) buffer).find? (·.line = line) = some ⟨line, isError⟩

theorem find?_marks (found : List Spot) (buffer line : Int) :
    ((found.filter (·.buffer = buffer)).map Spot.mark).find? (·.line = line) =
      (found.find? (Spot.isAt buffer line)).map Spot.mark := by
  rw [List.find?_map, List.find?_filter]
  congr 2
  funext spot
  change decide (decide (spot.buffer = buffer) = true ∧ decide (spot.line = line) = true) = _
  simp [Spot.isAt]

theorem Collects.firstSign (collects : Collects reports number groups) (knows : Knows scene reports number)
    {buffer line : Int} {rest : List Value} (starts : bucket groups buffer line = first.value :: rest) :
    FirstSign scene groups buffer line first.isError := by
  obtain ⟨distinct, named, moved, kinds⟩ := groups_of_sorted collects
  obtain ⟨current, isCurrent⟩ := knows.current
  have answered : ∀ entry ∈ groups, ∃ window,
      intAnswerTo scene ("bufwinnr(" ++ toString entry.1 ++ ")") = .ok window := by
    intro entry isEntry
    obtain ⟨spot, isSpot, same⟩ := (named entry.1).mp (List.mem_map_of_mem isEntry)
    obtain ⟨report, isReport, rfl⟩ := List.mem_map.mp isSpot
    rw [← same]
    exact knows.windowed report isReport
  have isFirst := find?_spots_isAt collects.distinct starts
  have member := List.mem_of_find?_eq_some isFirst
  have isNamed : buffer ∈ groups.map (·.1) := (named buffer).mpr ⟨_, moved.mem_iff.mp member, rfl⟩
  intro next events
  obtain ⟨later, added, running, _, _, draws⟩ := (succeeds_updateSigns isCurrent answered
    (fun spot isSpot => kinds spot (moved.mem_iff.mp isSpot)) next).emitting (emits_updateSigns groups next) events
  refine ⟨later, added, running, fun signs below isShown => ?_⟩
  rw [draws.marks signs below, redrawn_eq distinct, if_pos ⟨isShown, isNamed⟩, find?_marks, isFirst,
    Option.map_some, Spot.mark, first.isError_eq]
  rfl

/-- Whenever the cursor is in a line of a buffer, the text of a diagnostic is shown. -/
def ShowsText (groups : Groups) (buffer line : Int) (diagnostic : Value) : Prop :=
  ∀ state workspace text, state.groups = groups → currentNumber workspace = .ok buffer →
    diagnostic.field "text" = .ok text →
    (((showLine line).run.run (state, workspace)).1, ((showLine line).run.run (state, workspace)).2.2) =
      (showWithinWidth text.display).run.run workspace

theorem showsText_of_bucket {buffer line : Int} {diagnostic : Value} {rest : List Value}
    (starts : bucket groups buffer line = diagnostic :: rest) : ShowsText groups buffer line diagnostic := by
  intro state workspace text same isCurrent hasText
  obtain ⟨found, isFound, isNumber⟩ := bind_eq_ok_iff.mp isCurrent
  have isBuffer : found.number = buffer := Except.ok.inj isNumber
  have located : Editor.buffer.run.run workspace = (.ok found, workspace) := by
    refine (Act.run_bind_ok rfl).trans ?_
    rw [Act.run_lift_except, isFound]
  have looked : bucket (Table.alter found.number (fun lines => Table.alter line (·.getD []) (lines.getD [])) state.groups)
      found.number line = diagnostic :: rest := by
    rw [same, isBuffer, ← starts]
    simp [bucket, Table.lookup_alter_self]
  have running : (showLine line).run.run (state, workspace) = (do
      (showWithinWidth text.display : Act Workspace Unit)
      change fun state => { state with isShowing := true } : Doing Unit).run.run ({ state with
        groups := Table.alter found.number (fun lines => Table.alter line (·.getD []) (lines.getD [])) state.groups },
        workspace) := by
    refine (Act.run_bind_ok (Act.run_lift_ok located state)).trans ?_
    iterate 2 refine (Act.run_bind_ok rfl).trans ?_
    unfold bucket at looked
    dsimp only
    rw [looked]
    exact Act.run_bind_ok (by rw [Act.run_lift_except, hasText])
  have noted : Act.Erases (change fun state => { state with isShowing := true }) (pure ()) := fun _ _ => rfl
  have erases := Act.erases_bind (Act.erases_lift (showWithinWidth text.display)) fun _ => noted
  rw [bind_pure_unit] at erases
  rw [running]
  exact erases _ workspace

end Listing

/-- Every diagnostic is listed once, under its buffer and its line. In a line the errors come before the warnings exactly
if no error is further right than a warning. The first sign there and the text that is shown belong to the first one
that is listed, which is an error exactly if an error is among the leftmost. -/
theorem errors_before_warnings_iff {scene : Workspace} {reports : List Report} {number : String → Int}
    (knows : Knows scene reports number) :
    ∃ groups, Answers scene (grouped (.list (reports.map (·.value)))) groups ∧
      (spots groups).Perm (reports.map (Report.spot number)) ∧
      ∀ buffer line, ∃ listed : List Report, bucket groups buffer line = listed.map (·.value) ∧
        listed.Perm (reportsAt reports number buffer line) ∧
        (ErrorsFirst listed ↔ ∀ error ∈ listed, ∀ warning ∈ listed, error.isError = true → warning.isError = false →
          error.column ≤ warning.column) ∧
        ∀ first ∈ listed.head?,
          (first.isError = true ↔
            ∃ error ∈ listed, error.isError = true ∧ ∀ other ∈ listed, error.column ≤ other.column) ∧
          FirstSign scene groups buffer line first.isError ∧ ShowsText groups buffer line first.value := by
  obtain ⟨groups, collects⟩ := exists_collects reports number
  obtain ⟨_, _, moved, _⟩ := groups_of_sorted collects
  refine ⟨groups, collects.answers knows.numbered, moved, fun buffer line => ?_⟩
  have isBucket := collects.bucket_eq buffer line
  have ordered := pairwise_comesBefore (reportsAt reports number buffer line)
  refine ⟨_, isBucket, List.mergeSort_perm _ _, errorsFirst_iff ordered, fun first isFirst => ?_⟩
  obtain ⟨rest, starts⟩ := List.head?_eq_some_iff.mp isFirst
  rw [starts, List.map_cons] at isBucket
  exact ⟨first_isError_iff ordered isFirst, collects.firstSign knows isBucket, showsText_of_bucket isBucket⟩

section OneWindow

/-- A diagnostic in the second line of a file. -/
def inSecondLine (column : Int) (isError : Bool) (text : String) : Report where
  value := .record [("location", .record [("filepath", .text "/one.cpp"), ("line_num", .int 1),
    ("column_num", .int column)]), ("kind", .text (if isError then "E" else "W")), ("text", .text text)]
  location := .record [("filepath", .text "/one.cpp"), ("line_num", .int 1), ("column_num", .int column)]
  path := "/one.cpp"
  line := 1
  column := column
  isError := isError
  hasLocation := rfl
  hasPath := rfl
  hasLine := rfl
  hasColumn := rfl
  hasKind := rfl

def oneWindow : Workspace :=
  { editor :=
      { buffers := [⟨"/one.cpp", 1, ["", ""]⟩]
        answers := [("bufnr('/one.cpp'", .ok (.int 1)), ("bufwinnr(1)", .ok (.int 1))] } }

theorem knows_oneWindow {reports : List Report} (inFile : ∀ report ∈ reports, report.path = "/one.cpp") :
    Knows oneWindow reports fun _ => 1 := by
  constructor
  · intro report isReport
    rw [inFile report isReport]
    exact Act.eq_ok_of_toOption (by decide +kernel)
  · intro report _
    exact ⟨1, Act.eq_ok_of_toOption (by decide +kernel)⟩
  · exact ⟨1, rfl⟩

theorem errors_before_warnings_iff_in_column :
    Knows oneWindow [inSecondLine 4 false "unused", inSecondLine 4 true "undeclared"] (fun _ => 1) ∧
      ∃ groups listed, bucket groups 1 2 = listed.map (·.value) ∧
        listed.Perm [inSecondLine 4 false "unused", inSecondLine 4 true "undeclared"] ∧ ErrorsFirst listed ∧
        FirstSign oneWindow groups 1 2 true := by
  have knows : Knows oneWindow [inSecondLine 4 false "unused", inSecondLine 4 true "undeclared"] (fun _ => 1) :=
    knows_oneWindow (by simp [inSecondLine])
  obtain ⟨groups, _, _, lines⟩ := errors_before_warnings_iff knows
  obtain ⟨listed, isBucket, perm, errorsFirst, starts⟩ := lines 1 2
  have perm : listed.Perm [inSecondLine 4 false "unused", inSecondLine 4 true "undeclared"] := perm
  have inColumn (report : Report) (isListed : report ∈ listed) : report.column = 4 := by
    have isReport := perm.mem_iff.mp isListed
    simp only [List.mem_cons, List.not_mem_nil, or_false] at isReport
    obtain rfl | rfl := isReport <;> rfl
  have isError : inSecondLine 4 true "undeclared" ∈ listed := perm.mem_iff.mpr (by simp)
  refine ⟨knows, groups, listed, isBucket, perm, ?_, ?_⟩
  · rw [errorsFirst]
    intro error isError warning isWarning _ _
    rw [inColumn error isError, inColumn warning isWarning]
  · obtain ⟨first, rest, same⟩ := List.exists_cons_of_ne_nil (List.ne_nil_of_mem isError)
    obtain ⟨firstIsError, firstSign, _⟩ := starts first (by rw [same]; rfl)
    have found : first.isError = true := firstIsError.mpr ⟨_, isError, rfl, fun other isOther => by
      rw [inColumn other isOther, inColumn _ isError]⟩
    rw [found] at firstSign
    exact firstSign

/-- A warning that is further left stands before an error, has the first sign, and is the one that is shown. -/
theorem warning_listed_before_error :
    ∃ groups, Answers oneWindow
        (grouped (.list [(inSecondLine 0 false "unused").value, (inSecondLine 4 true "undeclared").value])) groups ∧
      bucket groups 1 2 = [(inSecondLine 0 false "unused").value, (inSecondLine 4 true "undeclared").value] ∧
      FirstSign oneWindow groups 1 2 false ∧ ShowsText groups 1 2 (inSecondLine 0 false "unused").value := by
  let reports := [inSecondLine 0 false "unused", inSecondLine 4 true "undeclared"]
  have knows : Knows oneWindow reports (fun _ => 1) := knows_oneWindow (by simp [reports, inSecondLine])
  obtain ⟨groups, collects⟩ := exists_collects reports fun _ => 1
  have ordered : reports.Pairwise fun left right => left.comesBefore right = true := by
    simp [reports, Report.comesBefore_iff, inSecondLine]
  have isBucket := collects.bucket_eq 1 2
  rw [show reportsAt reports (fun _ => 1) 1 2 = reports from rfl, List.mergeSort_of_pairwise ordered] at isBucket
  exact ⟨groups, collects.answers knows.numbered, isBucket, collects.firstSign knows isBucket, showsText_of_bucket isBucket⟩

end OneWindow

end Typeahead.Client.Diagnostics

import Typeahead.Client.Request
import Typeahead.Proofs.FileBuffers

namespace Typeahead

/-! The positions that the editor is told of. The server counts lines and columns from 0, the editor's lists and jumps
count from 1. One is added to both for a jump and for the location list, in the list of several places only to the
line. -/

namespace Value

variable {value found : Value} {key : String}

theorem field?_record (fields : Fields) (key : String) : (record fields).field? key = fields.lookup key := rfl

theorem field_eq_ok_iff : value.field key = .ok found ↔ value.field? key = some found := by
  cases value with
  | record fields => cases isFound : fields.lookup key <;> simp [field, field?, isFound]
  | _ => simp [field, field?]

theorem exists_record_of_field (hasField : value.field key = .ok found) :
    ∃ first rest, value = .record (first :: rest) := by
  cases value with
  | record fields =>
      cases fields with
      | nil => cases hasField
      | cons first rest => exact ⟨first, rest, rfl⟩
  | _ => cases hasField

end Value

namespace Client

open Editor Diagnostics

/-- A place in a file as the server reports it, its line and column counted from 0. -/
structure ReportedPlace where
  value : Value
  path : String
  line : Int
  column : Int
  hasPath : value.field "filepath" = .ok (.text path)
  hasLine : value.field "line_num" = .ok (.int line)
  hasColumn : value.field "column_num" = .ok (.int column)

/-- A line and a column, both counted from 1. -/
structure Position where
  line : Int
  column : Int
deriving DecidableEq

def ReportedPlace.position (place : ReportedPlace) : Position := ⟨place.line + 1, place.column + 1⟩

/-- The position that an item of one of the editor's lists names. -/
def position? (item : Value) : Option Position :=
  match item.field? "lnum", item.field? "col" with
  | some (.int line), some (.int column) => some ⟨line, column⟩
  | _, _ => none

section Jumps

theorem follow_place {request : CommandRequest} (goes : request.goesSomewhere = true) (place : ReportedPlace) :
    ({ request with answer := place.value } : CommandRequest).follow =
      jump (.text place.path) (.int place.position.line) (.int place.position.column) := by
  obtain ⟨value, path, line, column, hasPath, hasLine, hasColumn⟩ := place
  obtain ⟨first, rest, rfl⟩ := Value.exists_record_of_field hasPath
  simp only [CommandRequest.follow, goes, Value.isPresent, hasPath, hasLine, hasColumn]
  rfl

end Jumps

section Lists

/-- Whatever line an answer has is a number. -/
def LineIsNumber (answer : Value) : Prop :=
  ∀ line, answer.field? "line_num" = some line → ∃ number, line = .int number

/-- An item has the line of an answer counted from 1, and the column as it was. -/
structure ListsAs (answer item : Value) : Prop where
  line : item.field? "lnum" = (answer.field? "line_num").bind fun line => (line.plus (.int 1)).toOption
  column : item.field? "col" = answer.field? "column_num"

theorem lookup_optional (value : Option Value) (shown : Value → Value) (name key : String) :
    (value.map fun value => (name, shown value)).toList.lookup key = if key = name then value.map shown else none := by
  cases value with
  | none => simp
  | some value =>
      by_cases same : key = name
      · simp [same]
      · simp [List.lookup_cons, same, beq_eq_false_iff_ne.mpr same]

theorem listItem_exists {answer : Value} (isNumber : LineIsNumber answer) :
    ∃ item, Response.listItem answer = .ok item ∧ ListsAs answer item := by
  have column (key : String) := lookup_optional (answer.field? "column_num") id "col" key
  simp only [id] at column
  cases isLine : answer.field? "line_num" with
  | none =>
      refine ⟨_, by simp only [Response.listItem, isLine]; rfl, ?_, ?_⟩
      · simp [Value.field?_record, List.lookup_append, lookup_optional, column, isLine]
      · simp [Value.field?_record, List.lookup_append, lookup_optional, column]
  | some line =>
      obtain ⟨number, rfl⟩ := isNumber line isLine
      have next : ((Value.int number).plus (.int 1)).toOption = some (.int (number + 1)) := rfl
      refine ⟨_, by simp only [Response.listItem, isLine]; rfl, ?_, ?_⟩
      · simp [Value.field?_record, List.lookup_append, lookup_optional, isLine, next]
      · simp [Value.field?_record, List.lookup_append, List.lookup_cons, lookup_optional, column]

/-- Shows items in the editor's list. -/
def showList (items : List Value) : Act Workspace Unit := do
  let _ ← evaluate ("setqflist( " ++ (Value.list items).literal ++ " )")
  let _ ← evaluate "youcompleteme#OpenGoToList()"

theorem follow_list {request : CommandRequest} (goes : request.goesSomewhere = true) {answers items : List Value}
    (notEmpty : answers ≠ []) (listed : answers.mapM Response.listItem = .ok items) :
    ({ request with answer := .list answers } : CommandRequest).follow = showList items := by
  have isPresent : (Value.list answers).isPresent = true := by simpa [Value.isPresent] using notEmpty
  simp only [CommandRequest.follow, goes, isPresent, listed]
  rfl

theorem mapM_listItem_exists {answers : List Value} (areNumbers : ∀ answer ∈ answers, LineIsNumber answer) :
    ∃ items, answers.mapM Response.listItem = .ok items ∧ List.Forall₂ ListsAs answers items := by
  induction answers with
  | nil => exact ⟨[], rfl, .nil⟩
  | cons answer answers ih =>
      obtain ⟨item, isItem, lists⟩ := listItem_exists (areNumbers answer List.mem_cons_self)
      obtain ⟨items, areItems, listsAll⟩ := ih fun other isOther => areNumbers other (List.mem_cons_of_mem _ isOther)
      exact ⟨item :: items, by rw [List.mapM_cons, isItem, areItems]; rfl, .cons lists listsAll⟩

theorem ListsAs.position {place : ReportedPlace} {item : Value} (lists : ListsAs place.value item) :
    position? item = some ⟨place.line + 1, place.column⟩ := by
  rw [position?, lists.line, lists.column, Value.field_eq_ok_iff.mp place.hasLine,
    Value.field_eq_ok_iff.mp place.hasColumn]
  rfl

end Lists

section Diagnostics

/-- A diagnostic is reported at a place, and the editor has a number for the buffer of its file. -/
structure ReportedAt (workspace : Workspace) (diagnostic : Value) (place : ReportedPlace) : Prop where
  hasLocation : diagnostic.field "location" = .ok place.value
  hasText : ∃ text, diagnostic.field "text" = .ok text
  hasKind : ∃ kind, diagnostic.field "kind" = .ok kind
  hasBuffer : ∃ number, bufferOf workspace (.text place.path) = .ok number

theorem ReportedAt.item_exists {workspace : Workspace} {diagnostic : Value} {place : ReportedPlace}
    (reported : ReportedAt workspace diagnostic place) :
    ∃ item, Answers workspace (locationItem diagnostic) item ∧ position? item = some place.position := by
  obtain ⟨hasLocation, ⟨text, hasText⟩, ⟨kind, hasKind⟩, number, isNumber⟩ := reported
  have answers := answers_locationRecord hasLocation place.hasPath place.hasLine place.hasColumn hasText hasKind isNumber
  exact ⟨_, answers, rfl⟩

theorem locationItems_exist {workspace : Workspace} {diagnostics : List Value} {places : List ReportedPlace}
    (reported : List.Forall₂ (ReportedAt workspace) diagnostics places) :
    ∃ items, Answers workspace (locationItems (.list diagnostics)) (.list items) ∧
      items.map position? = places.map fun place => some place.position := by
  have each : ∃ items,
      List.Forall₂ (fun diagnostic item => Answers workspace (locationItem diagnostic) item) diagnostics items ∧
        items.map position? = places.map fun place => some place.position := by
    induction reported with
    | nil => exact ⟨[], .nil, rfl⟩
    | cons first _ ih =>
        obtain ⟨item, answers, named⟩ := first.item_exists
        obtain ⟨items, answersAll, namedAll⟩ := ih
        exact ⟨item :: items, .cons answers answersAll, by simp [named, namedAll]⟩
  obtain ⟨items, answers, named⟩ := each
  exact ⟨items, answers_locationItems answers, named⟩

end Diagnostics

/-- A place that the server reports is gone to at its line and column counted from 1, and the location list names
diagnostics there too. In the list of several places an item has the same line, but the column before. -/
theorem position_one_column_left_in_lists {request : CommandRequest} (goes : request.goesSomewhere = true) :
    (∀ place : ReportedPlace, ({ request with answer := place.value } : CommandRequest).follow =
      jump (.text place.path) (.int place.position.line) (.int place.position.column)) ∧
    (∀ answers ≠ [], (∀ answer ∈ answers, LineIsNumber answer) →
      ∃ items, ({ request with answer := .list answers } : CommandRequest).follow = showList items ∧
        List.Forall₂ (fun answer item => ∀ place : ReportedPlace, place.value = answer →
          position? item = some { place.position with column := place.position.column - 1 }) answers items) ∧
    ∀ (workspace : Workspace) (diagnostics : List Value) (places : List ReportedPlace),
      List.Forall₂ (ReportedAt workspace) diagnostics places →
      ∃ items, Answers workspace (locationItems (.list diagnostics)) (.list items) ∧
        items.map position? = places.map fun place => some place.position := by
  refine ⟨follow_place goes, ?_, fun _ _ _ reported => locationItems_exist reported⟩
  intro answers notEmpty areNumbers
  obtain ⟨items, listed, lists⟩ := mapM_listItem_exists areNumbers
  refine ⟨items, follow_list goes notEmpty listed, lists.imp ?_⟩
  rintro _ item lists place rfl
  rw [lists.position, ReportedPlace.position, Int.add_sub_cancel]

section Places

/-- The fifth line of a file, and the eighth column in it. -/
def inFifthLine : ReportedPlace where
  value := .record [("filepath", .text "/one.cpp"), ("line_num", .int 4), ("column_num", .int 7)]
  path := "/one.cpp"
  line := 4
  column := 7
  hasPath := rfl
  hasLine := rfl
  hasColumn := rfl

def goTo : CommandRequest :=
  { arguments := .list [.text "GoToDeclaration"], target := .text "filetype_default", goesSomewhere := true }

end Places

/-- Among answers there may be one without a place. -/
theorem position_one_column_left_in_lists_with_description :
    ({ goTo with answer := inFifthLine.value } : CommandRequest).follow = jump (.text "/one.cpp") (.int 5) (.int 8) ∧
      (∃ first second,
        ({ goTo with answer := .list [inFifthLine.value, .record [("description", .text "Builtin")]] } :
          CommandRequest).follow = showList [first, second] ∧ position? first = some ⟨5, 7⟩) ∧
      ∃ item, Answers twoBuffers
          (locationItems (.list [.record [("location", inFifthLine.value), ("text", .text "undeclared"),
            ("kind", .text "E")]])) (.list [item]) ∧ position? item = some ⟨5, 8⟩ := by
  have ways := position_one_column_left_in_lists (show goTo.goesSomewhere = true from rfl)
  have areNumbers : ∀ answer ∈ [inFifthLine.value, .record [("description", .text "Builtin")]],
      LineIsNumber answer := by
    intro answer isAnswer line hasLine
    rcases List.mem_pair.mp isAnswer with rfl | rfl
    · exact ⟨4, (Option.some.inj hasLine).symm⟩
    · cases hasLine
  have reported : ReportedAt twoBuffers
      (.record [("location", inFifthLine.value), ("text", .text "undeclared"), ("kind", .text "E")]) inFifthLine :=
    ⟨rfl, ⟨_, rfl⟩, ⟨_, rfl⟩, _, numbers_twoBuffers.bufferOf_eq (by decide +kernel)⟩
  refine ⟨ways.1 inFifthLine, ?_, ?_⟩
  · obtain ⟨items, shown, named⟩ := ways.2.1 _ (List.cons_ne_nil _ _) areNumbers
    obtain _ | ⟨named, _ | ⟨_, _ | _⟩⟩ := named
    exact ⟨_, _, shown, named inFifthLine rfl⟩
  · obtain ⟨items, answers, named⟩ := ways.2.2 _ _ _ (.cons reported .nil)
    obtain ⟨item, rfl, isNamed⟩ := List.map_eq_singleton_iff.mp named
    exact ⟨item, answers, isNamed⟩

/-- The eighth column is listed as the seventh. -/
theorem eighth_column_listed_as_seventh :
    inFifthLine.position = ⟨5, 8⟩ ∧
      ∃ item, Response.listItem inFifthLine.value = .ok item ∧ position? item = some ⟨5, 7⟩ :=
  ⟨rfl, _, rfl, rfl⟩

end Client

end Typeahead

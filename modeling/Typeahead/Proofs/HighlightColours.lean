import Typeahead.Proofs.EditorFrames
import Typeahead.Proofs.SignUpdates

namespace Typeahead

/-! The colours of highlights. A diagnostic is highlighted at its extent and at each of its ranges in the colour of its
kind; one without an extent is highlighted at its place, and there always as an error. -/

namespace Editor

section Groups

/-- The group that an expression adds a highlight to. -/
def addedGroup? (expression : String) : Option String :=
  if Text.startsWith expression "matchadd('" then
    some (String.ofList ((expression.toList.drop "matchadd('".toList.length).takeWhile (· != '\'')))
  else none

def addedGroups (events : List Event) : List String := events.filterMap fun
  | .evaluate expression => addedGroup? expression
  | _ => none

theorem addedGroups_append (first second : List Event) :
    addedGroups (first ++ second) = addedGroups first ++ addedGroups second :=
  List.filterMap_append

theorem addedGroup?_matchadd {group : String} (noQuote : '\'' ∉ group.toList) (pattern : String) :
    addedGroup? ("matchadd('" ++ group ++ "', '" ++ pattern ++ "')") = some group := by
  have plain : ∀ character ∈ group.toList, (character != '\'') = true :=
    fun character member => by simpa using ne_of_mem_of_not_mem member noQuote
  have quote : "', '".toList = ['\'', ',', ' ', '\''] := by decide
  have text : ("matchadd('" ++ group ++ "', '" ++ pattern ++ "')").toList =
      "matchadd('".toList ++ (group.toList ++ ('\'' :: ([',', ' ', '\''] ++ (pattern ++ "')").toList))) := by
    simp only [String.toList_append, quote, List.append_assoc]
    rfl
  have starts : Text.startsWith ("matchadd('" ++ group ++ "', '" ++ pattern ++ "')") "matchadd('" = true := by
    rw [Text.startsWith, List.isPrefixOf_iff_prefix, text]
    exact List.prefix_append _ _
  rw [addedGroup?, if_pos starts, text, List.drop_left, List.takeWhile_append_of_pos plain]
  simp

theorem addedGroup?_matchdelete (id : String) : addedGroup? ("matchdelete(" ++ id ++ ")") = none := by
  have other : Text.startsWith ("matchdelete(" ++ id ++ ")") "matchadd('" = false := by
    rw [Text.startsWith, String.append_assoc, String.toList_append]
    generalize (id ++ ")").toList = rest
    rfl
  rw [addedGroup?, other]
  rfl

end Groups

section Highlights

open Act

variable {α β : Type} {act : Act Workspace α} {next : α → Act Workspace β} {groups others : List String}

/-- Events are added, but no highlights. -/
def Unlit (before after : Workspace) : Prop :=
  ∃ added, after = { before with events := before.events ++ added } ∧ addedGroups added = []

instance : Chains Unlit where
  refl _ := ⟨[], by simp, rfl⟩
  trans := by
    intro first second third before after
    obtain ⟨added, rfl, none⟩ := before
    obtain ⟨more, rfl, noOthers⟩ := after
    exact ⟨added ++ more, by simp, by rw [addedGroups_append, none, noOthers, List.append_nil]⟩

theorem unlit_evaluate {expression : String} (other : addedGroup? expression = none) :
    (evaluate expression).Keeps Unlit := by
  intro workspace
  rw [run_evaluate]
  exact ⟨_, rfl, by simp [addedGroups, other]⟩

theorem unlit_clearHighlights : clearHighlights.Keeps Unlit := by
  have asked : (evaluateNumber "getmatches()").Keeps Unlit := by
    refine (unlit_evaluate (by decide)).bind fun value => ?_
    cases value <;> exact keeps_pure _
  refine asked.bind fun found => keeps_except_bind fun items => ?_
  refine (keeps_forIn (fun highlight _ => ?_) items _).bind fun _ => keeps_pure _
  refine keeps_except_bind fun _ => keeps_except_bind fun group => ?_
  split
  · exact keeps_except_bind fun _ => (unlit_evaluate (addedGroup?_matchdelete _)).bind fun _ => keeps_pure _
  · exact keeps_pure _

/-- An act adds nothing but events. The groups that it adds highlights to are the first of those given, and all of them
if it succeeds. -/
def Highlights (act : Act Workspace α) (groups : List String) : Prop :=
  ∀ workspace result after, act.run.run workspace = (result, after) →
    ∃ added, after = { workspace with events := workspace.events ++ added } ∧ addedGroups added <+: groups ∧
      (result.isOk → addedGroups added = groups)

theorem Highlights.of_unlit (unlit : act.Keeps Unlit) : Highlights act [] := by
  intro workspace result after ran
  obtain ⟨added, same, none⟩ := unlit.of_run ran
  exact ⟨added, same, by rw [none], fun _ => none⟩

theorem Highlights.bind (first : Highlights act groups) (rest : ∀ value, Highlights (next value) others) :
    Highlights (act >>= next) (groups ++ others) := by
  intro workspace result after ran
  rcases running : act.run.run workspace with ⟨between, middle⟩
  obtain ⟨added, rfl, isPrefix, complete⟩ := first workspace between middle running
  cases between with
  | error fault =>
      rw [run_bind_error running] at ran
      cases ran
      exact ⟨added, rfl, isPrefix.trans (List.prefix_append _ _), fun isOk => by cases isOk⟩
  | ok value =>
      rw [run_bind_ok running] at ran
      obtain ⟨more, rfl, isLater, completes⟩ := rest value _ result after ran
      have all : addedGroups added = groups := complete rfl
      refine ⟨added ++ more, by simp, ?_, fun isOk => ?_⟩
      · rw [addedGroups_append, all]
        exact List.prefix_append_right_inj _ |>.mpr isLater
      · rw [addedGroups_append, all, completes isOk]

theorem Highlights.bind_pure {change : α → β} (first : Highlights act groups) :
    Highlights (act >>= fun value => pure (change value)) groups := by
  simpa using first.bind fun value => Highlights.of_unlit (keeps_pure (change value))

theorem Highlights.after_unlit (unlit : act.Keeps Unlit) (rest : ∀ value, Highlights (next value) groups) :
    Highlights (act >>= next) groups :=
  (Highlights.of_unlit unlit).bind rest

/-- What comes after a result is judged by the value that is there. -/
theorem highlights_except_bind {result : Except Fault α}
    (rest : ∀ value, result = .ok value → Highlights (next value) groups) :
    Highlights (liftM result >>= next) groups := by
  cases result with
  | error fault =>
      intro workspace result after ran
      cases ran
      exact ⟨[], by simp, List.nil_prefix, fun isOk => by cases isOk⟩
  | ok value => exact rest value rfl

theorem highlights_forIn {each : α → Act Workspace Unit} {groupsOf : α → List String}
    (highlights : ∀ item, Highlights (each item) (groupsOf item)) (items : List α) :
    Highlights (forIn items PUnit.unit fun item _ => do
      each item
      pure (ForInStep.yield PUnit.unit)) (items.flatMap groupsOf) := by
  induction items with
  | nil => exact Highlights.of_unlit (keeps_pure _)
  | cons item items ih =>
      rw [List.forIn_cons, bind_assoc, List.flatMap_cons]
      exact (highlights item).bind fun _ => ih

theorem highlights_matchadd (isError : Bool) (pattern : String) :
    Highlights (evaluateInt ("matchadd('" ++ highlightGroup isError ++ "', '" ++ pattern ++ "')"))
      [highlightGroup isError] := by
  intro workspace result after ran
  rw [run_evaluateInt] at ran
  cases ran
  have noQuote : '\'' ∉ (highlightGroup isError).toList := by cases isError <;> decide
  have added : addedGroups [.evaluate ("matchadd('" ++ highlightGroup isError ++ "', '" ++ pattern ++ "')")] =
      [highlightGroup isError] := by
    simp only [addedGroups, List.filterMap_cons, addedGroup?_matchadd noQuote, List.filterMap_nil]
  exact ⟨_, rfl, by rw [added], fun _ => added⟩

theorem highlights_highlight (line column lineEnd columnEnd : Value) (isError : Bool) :
    Highlights (highlight line column lineEnd columnEnd isError) [highlightGroup isError] := by
  refine Highlights.after_unlit (keeps_clamp _ _) fun _ => Highlights.after_unlit (keeps_clamp _ _) fun _ => ?_
  exact highlights_matchadd isError _

end Highlights

end Editor

namespace Client.Diagnostics

open Act Editor

section Colours

def isErrorKind (diagnostic : Value) : Bool := (diagnostic.field "kind").toOption.any (·.same (.text "E"))

/-- Whether a diagnostic has no extent: the extent starts before the first line. -/
def lacksExtent (diagnostic : Value) : Bool :=
  (do (← (← (← diagnostic.field "location_extent").field "start").field "line_num").less (.int 0)).toOption.getD false

def rangesOf (diagnostic : Value) : List Value := (do (← diagnostic.field "ranges").elements).toOption.getD []

def kindGroup (diagnostic : Value) : String :=
  if isErrorKind diagnostic then "YcmErrorSection" else "YcmWarningSection"

/-- The groups of all highlights of a diagnostic: first the one for its extent, or for its place if it has none, and
then those for its ranges. -/
def groupsOf (diagnostic : Value) : List String :=
  (if lacksExtent diagnostic then "YcmErrorSection" else kindGroup diagnostic) ::
    (rangesOf diagnostic).map fun _ => kindGroup diagnostic

theorem highlights_highlightRange (range : Value) (isError : Bool) :
    Highlights (highlightRange range isError) [highlightGroup isError] := by
  iterate 10 refine highlights_except_bind fun _ _ => ?_
  exact (highlights_highlight _ _ _ _ isError).bind_pure

theorem kindGroup_of_isError {diagnostic : Value} {known : Bool} (isKind : isError diagnostic = .ok known) :
    highlightGroup known = kindGroup diagnostic := by
  obtain ⟨kind, isField, isKind⟩ := bind_eq_ok_iff.mp isKind
  cases isKind
  rw [kindGroup, isErrorKind, isField]
  rfl

theorem highlights_highlightDiagnostic (diagnostic : Value) :
    Highlights (highlightDiagnostic diagnostic) (groupsOf diagnostic) := by
  unfold highlightDiagnostic
  refine highlights_except_bind fun extent isExtent => highlights_except_bind fun isError isKind => ?_
  refine highlights_except_bind fun start isStart => highlights_except_bind fun line isLine => ?_
  refine highlights_except_bind fun isBefore known => ?_
  have colour := kindGroup_of_isError isKind
  have first : lacksExtent diagnostic = isBefore := by
    rw [lacksExtent, isExtent]
    simp only [bind, Except.bind, isStart, isLine, known]
    rfl
  have ranges : Highlights (do
      for range in ← (← diagnostic.field "ranges").elements do
        highlightRange range isError) ((rangesOf diagnostic).map fun _ => kindGroup diagnostic) := by
    refine highlights_except_bind fun listed isListed => highlights_except_bind fun ranges areRanges => ?_
    have read : rangesOf diagnostic = ranges := by
      rw [rangesOf, isListed]
      simp only [bind, Except.bind, areRanges]
      rfl
    rw [read, ← colour, List.map_eq_flatMap]
    exact (highlights_forIn (fun range => highlights_highlightRange range isError) ranges).bind_pure
  rw [groupsOf, first, ← List.singleton_append]
  cases isBefore with
  | true =>
      iterate 5 refine highlights_except_bind fun _ _ => ?_
      exact (highlights_highlight _ _ _ _ true).bind fun _ => ranges
  | false =>
      have here : Highlights (highlightRange extent isError) [kindGroup diagnostic] :=
        colour ▸ highlights_highlightRange extent isError
      exact here.bind fun _ => ranges

/-- The first highlights of a diagnostic are all in the colour of its kind, unless one of them is for the place of a
warning that has no extent. -/
theorem forall_kindGroup_iff {diagnostic : Value} {groups : List String} (isPrefix : groups <+: groupsOf diagnostic) :
    (∀ group ∈ groups, group = kindGroup diagnostic) ↔
      groups = [] ∨ isErrorKind diagnostic = true ∨ lacksExtent diagnostic = false := by
  cases groups with
  | nil => simp
  | cons group later =>
      obtain ⟨isFirst, ofRanges⟩ := List.cons_prefix_cons.mp isPrefix
      have rest : ∀ group ∈ later, group = kindGroup diagnostic := by
        intro group member
        obtain ⟨_, _, isGroup⟩ := List.mem_map.mp (ofRanges.subset member)
        exact isGroup.symm
      rw [List.forall_mem_cons, and_iff_left rest, isFirst]
      cases lacks : lacksExtent diagnostic <;> cases kind : isErrorKind diagnostic <;> simp [kindGroup, kind]

end Colours

section Passages

/-- The diagnostics that are highlighted one after another, each with the events of it. A failure ends it. -/
def passages : Workspace → List Value → List (Value × List Event)
  | _, [] => []
  | workspace, diagnostic :: later =>
    let (result, after) := (highlightDiagnostic diagnostic).run.run workspace
    (diagnostic, after.events.drop workspace.events.length) :: if result.isOk then passages after later else []

def diagnosticsHere (state : Diagnostics) (workspace : Workspace) : List Value :=
  (((currentNumber workspace).toOption.bind fun number => state.groups.lookup number).getD []).flatMap (·.2)

/-- What an update highlights once it has taken out the old highlights. -/
def highlighted (state : Diagnostics) (workspace : Workspace) : List (Value × List Event) :=
  let (result, cleared) := clearHighlights.run.run workspace
  if result.isOk then passages cleared (diagnosticsHere state workspace) else []

variable {workspace after : Workspace} {diagnostics : List Value} {result : Except Fault Unit}

theorem passages_cons {diagnostic : Value} {added : List Event}
    (ran : (highlightDiagnostic diagnostic).run.run workspace =
      (result, { workspace with events := workspace.events ++ added })) (later : List Value) :
    passages workspace (diagnostic :: later) = (diagnostic, added) ::
      if result.isOk then passages { workspace with events := workspace.events ++ added } later else [] := by
  rw [passages, ran]
  simp

theorem run_forM_highlightDiagnostic
    (ran : (diagnostics.forM highlightDiagnostic).run.run workspace = (result, after)) :
    after = { workspace with events := workspace.events ++ (passages workspace diagnostics).flatMap (·.2) } ∧
    (result.isOk → (passages workspace diagnostics).map (·.1) = diagnostics) ∧
    ∀ passage ∈ passages workspace diagnostics, addedGroups passage.2 <+: groupsOf passage.1 ∧
      (result.isOk → addedGroups passage.2 = groupsOf passage.1) := by
  induction diagnostics generalizing workspace with
  | nil =>
      cases ran
      simp [passages]
  | cons diagnostic later ih =>
      rcases running : (highlightDiagnostic diagnostic).run.run workspace with ⟨first, middle⟩
      obtain ⟨added, rfl, isPrefix, complete⟩ := highlights_highlightDiagnostic diagnostic _ _ _ running
      rw [passages_cons running]
      cases first with
      | error fault =>
          cases (run_bind_error running).symm.trans ran
          simp [Except.isOk, Except.toBool, isPrefix]
      | ok _ =>
          obtain ⟨isAfter, inOrder, each⟩ := ih ((run_bind_ok running).symm.trans ran)
          simp only [Except.isOk, Except.toBool, if_true, List.flatMap_cons, List.map_cons, List.forall_mem_cons]
          refine ⟨by simpa using isAfter, fun isOk => by rw [inOrder isOk], ⟨isPrefix, fun _ => complete rfl⟩, each⟩

/-- Once the old highlights are out, an update highlights the diagnostics of the current buffer. -/
theorem run_updateHighlights (state : Diagnostics) {cleared : Workspace} {buffer : Buffer}
    (clears : clearHighlights.run.run workspace = (.ok (), cleared))
    (isCurrent : Editor.buffer.run.run cleared = (.ok buffer, cleared)) :
    ∃ later, updateHighlights.run.run (state, workspace) =
      (liftM ((((state.groups.lookup buffer.number).getD []).flatMap (·.2)).forM highlightDiagnostic) :
        Doing Unit).run.run (later, cleared) := by
  refine ⟨{ state with groups := Table.alter buffer.number (·.getD []) state.groups }, ?_⟩
  have lines : ((Table.alter buffer.number (·.getD []) state.groups).lookup buffer.number).getD [] =
      (state.groups.lookup buffer.number).getD [] := by rw [Table.lookup_alter_self]; rfl
  unfold updateHighlights
  rw [run_bind_ok (run_lift_ok clears state), run_bind_ok (run_lift_ok isCurrent state)]
  refine (run_bind_ok rfl).trans ((run_bind_ok (run_get _)).trans ?_)
  dsimp only
  rw [lines]
  exact congrArg (fun act : Doing Unit => act.run.run _) (bind_pure_unit.trans (forIn_forIn_lift _ _))

/-- An update gives the events of what it highlights behind those of taking out the old highlights. -/
theorem events_of_updateHighlights {state later : Diagnostics}
    (ran : updateHighlights.run.run (state, workspace) = (result, later, after)) :
    (∃ cleared, addedGroups cleared = [] ∧
      after.events = workspace.events ++ cleared ++ (highlighted state workspace).flatMap (·.2)) ∧
    (result.isOk → (highlighted state workspace).map (·.1) = diagnosticsHere state workspace) ∧
    ∀ passage ∈ highlighted state workspace, addedGroups passage.2 <+: groupsOf passage.1 ∧
      (result.isOk → addedGroups passage.2 = groupsOf passage.1) := by
  rcases clears : clearHighlights.run.run workspace with ⟨cleared, middle⟩
  obtain ⟨asked, rfl, unlit⟩ := unlit_clearHighlights.of_run clears
  rw [highlighted, clears]
  cases cleared with
  | error fault =>
      cases (run_bind_error (run_lift_error clears state)).symm.trans ran
      simp [Except.isOk, Except.toBool, unlit]
  | ok _ =>
      have looked : Editor.buffer.run.run { workspace with events := workspace.events ++ asked } =
        (Value.nth workspace.editor.buffers workspace.editor.current, _) := run_buffer _
      -- the commands to take out highlights leave the buffers as they are, so the current one is that from before
      change _ ∧ (_ → (passages _ _).map (·.1) = _) ∧ ∀ passage ∈ passages _ _, _
      cases isCurrent : Value.nth workspace.editor.buffers workspace.editor.current with
      | error fault =>
          rw [isCurrent] at looked
          have none : diagnosticsHere state workspace = [] := by
            rw [diagnosticsHere, currentNumber, isCurrent]
            rfl
          have ended : updateHighlights.run.run (state, workspace) = (.error fault, state, _) :=
            (run_bind_ok (run_lift_ok clears state)).trans (run_bind_error (run_lift_error looked state))
          cases ended.symm.trans ran
          rw [none]
          exact ⟨⟨asked, unlit, by simp [passages]⟩, fun _ => rfl, by simp [passages]⟩
      | ok buffer =>
          rw [isCurrent] at looked
          have here : diagnosticsHere state workspace =
              ((state.groups.lookup buffer.number).getD []).flatMap (·.2) := by
            rw [diagnosticsHere, currentNumber, isCurrent]
            rfl
          obtain ⟨changed, ended⟩ := run_updateHighlights state clears looked
          rw [← here, run_lift] at ended
          cases ended.symm.trans ran
          obtain ⟨isAfter, inOrder, each⟩ := run_forM_highlightDiagnostic (Prod.mk.eta.symm)
          exact ⟨⟨asked, unlit, by rw [isAfter]; rfl⟩, inOrder, each⟩

end Passages

/-- An update highlights, one after another, the diagnostics of the current buffer. Each is highlighted in the colours
that are given for it, and in all of them if the update succeeds. They are the colour of its kind, unless it is a
warning without an extent: the highlight at the place of such a one is in the colour of errors. -/
theorem highlights_coloured_by_kind_iff (state : Diagnostics) (workspace : Workspace) :
    (∃ cleared, addedGroups cleared = [] ∧ (updateHighlights.run.run (state, workspace)).2.2.events =
      workspace.events ++ cleared ++ (highlighted state workspace).flatMap (·.2)) ∧
    ((updateHighlights.run.run (state, workspace)).1.isOk →
      (highlighted state workspace).map (·.1) = diagnosticsHere state workspace) ∧
    ∀ passage ∈ highlighted state workspace,
      addedGroups passage.2 <+: groupsOf passage.1 ∧
      ((updateHighlights.run.run (state, workspace)).1.isOk → addedGroups passage.2 = groupsOf passage.1) ∧
      ((∀ group ∈ addedGroups passage.2, group = kindGroup passage.1) ↔
        addedGroups passage.2 = [] ∨ isErrorKind passage.1 = true ∨ lacksExtent passage.1 = false) := by
  rcases ran : updateHighlights.run.run (state, workspace) with ⟨result, later, after⟩
  obtain ⟨events, inOrder, each⟩ := events_of_updateHighlights ran
  refine ⟨events, inOrder, fun passage member => ?_⟩
  obtain ⟨isPrefix, complete⟩ := each passage member
  exact ⟨isPrefix, complete, forall_kindGroup_iff isPrefix⟩

section Unplaced

/-- A warning in the first line that has no extent. -/
def warningWithoutExtent : Value :=
  .record [("kind", .text "W"), ("location", .record [("filepath", .text "/one.cpp"), ("line_num", .int 0),
    ("column_num", .int 0)]), ("location_extent", .record [("start", .record [("line_num", .int (-1)),
      ("column_num", .int (-1))]), ("end", .record [("line_num", .int (-1)), ("column_num", .int (-1))])]),
    ("ranges", .list [])]

def warned : Diagnostics := { options := [], groups := [(1, [(1, [warningWithoutExtent])])] }

def unmarkedWindow : Workspace :=
  { editor :=
      { buffers := [⟨"/one.cpp", 1, ["int x;"]⟩]
        answers := [("getmatches()", .ok (.list [])), ("matchadd(", .ok (.int 1))] } }

end Unplaced

theorem warning_highlighted_as_error :
    kindGroup warningWithoutExtent = "YcmWarningSection" ∧
      diagnosticsHere warned unmarkedWindow = [warningWithoutExtent] ∧
      addedGroups (updateHighlights.run.run (warned, unmarkedWindow)).2.2.events = ["YcmErrorSection"] := by
  exact ⟨rfl, rfl, rfl⟩

end Client.Diagnostics

end Typeahead

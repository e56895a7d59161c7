import Typeahead.Client.Diagnostics
import Typeahead.Editor.Request
import Typeahead.Proofs.EditorAnswers

namespace Typeahead

/-! What asking the editor leaves as it is. Most of what the client does with the editor comes down to questions, and
each of these only adds its event; so a relation that allows such an event holds along all of it. -/

namespace Editor

open Act

/-- A relation between workspaces that allows questions to the editor. -/
class AllowsAsking (relation : Workspace → Workspace → Prop) : Prop extends Chains relation where
  asked : ∀ (workspace : Workspace) (expression : String),
    relation workspace { workspace with events := workspace.events ++ [.evaluate expression] }

variable {α : Type} {relation : Workspace → Workspace → Prop} [AllowsAsking relation]

section Questions

theorem keeps_evaluate (expression : String) : (evaluate expression).Keeps relation := by
  intro workspace
  rw [run_evaluate]
  exact AllowsAsking.asked workspace expression

theorem keeps_evaluateInt (expression : String) : (evaluateInt expression).Keeps relation :=
  (keeps_evaluate expression).bind fun _ => keeps_except _

theorem keeps_evaluateNumber (expression : String) : (evaluateNumber expression).Keeps relation := by
  refine (keeps_evaluate expression).bind fun value => ?_
  cases value <;> exact keeps_pure _

theorem keeps_bufferNumber (path : Value) (opens : Bool) : (bufferNumber path opens).Keeps relation :=
  keeps_except_bind fun _ => keeps_get.bind fun _ => keeps_evaluateInt _

theorem keeps_isVisible (number : Int) : (isVisible number).Keeps relation := by
  unfold isVisible
  split
  · exact keeps_pure _
  · exact (keeps_evaluateInt _).bind fun _ => keeps_pure _

theorem keeps_isModified (buffer : Buffer) : (isModified buffer).Keeps relation :=
  (keeps_evaluate _).bind fun _ => keeps_except_bind fun _ => keeps_pure _

theorem keeps_isUsable (buffer : Buffer) : (isUsable buffer).Keeps relation := by
  refine (keeps_isModified buffer).bind fun isModified => ?_
  split
  · exact keeps_pure _
  · exact (keeps_evaluate _).bind fun _ => keeps_except_bind fun _ => keeps_pure _

theorem keeps_filetypes : filetypes.Keeps relation := (keeps_evaluate _).bind fun _ => keeps_except _

theorem keeps_filetypesOf (buffer : Buffer) : (filetypesOf buffer).Keeps relation :=
  (keeps_evaluate _).bind fun _ => keeps_except _

theorem keeps_dialog (message : String) (choices : List String) (preset : Value) :
    (dialog message choices preset).Keeps relation :=
  keeps_except_bind fun _ => (keeps_evaluateInt _).bind fun _ => keeps_pure _

theorem keeps_confirm (message : String) : (confirm message).Keeps relation :=
  (keeps_dialog _ _ _).bind fun _ => keeps_pure _

end Questions

section Places

omit [AllowsAsking relation] in
theorem keeps_buffer [Chains relation] : Editor.buffer.Keeps relation := keeps_get.bind fun _ => keeps_except _

theorem keeps_getCursor : getCursor.Keeps relation := keeps_get.bind fun _ => keeps_pure _

theorem keeps_currentPath : currentPath.Keeps relation :=
  keeps_get.bind fun _ => keeps_buffer.bind fun _ => keeps_pure _

theorem keeps_lineAndColumn : lineAndColumn.Keeps relation :=
  keeps_getCursor.bind fun _ => keeps_except_bind fun _ => keeps_pure _

theorem keeps_currentLine : currentLine.Keeps relation := by
  refine keeps_get.bind fun workspace => ?_
  cases workspace.editor.line with
  | some line => exact keeps_pure _
  | none =>
      refine keeps_getCursor.bind fun _ => keeps_except_bind fun _ => keeps_except_bind fun _ => ?_
      exact keeps_buffer.bind fun _ => keeps_except_bind fun _ => keeps_pure _

theorem keeps_atCursor (look : List Char → Int → Except Fault α) : (atCursor look).Keeps relation :=
  keeps_currentLine.bind fun _ => keeps_getCursor.bind fun _ => keeps_except_bind fun _ =>
    keeps_except_bind fun _ => keeps_except _

theorem keeps_unsavedContents : unsavedContents.Keeps relation := by
  refine keeps_get.bind fun workspace => (keeps_forIn (fun entry contents => ?_) _ _).bind fun _ => keeps_pure _
  refine (keeps_isModified _).bind fun isModified => ?_
  dsimp only
  split
  · exact (keeps_filetypesOf _).bind fun _ => keeps_get.bind fun _ => keeps_pure _
  · exact keeps_pure _

theorem keeps_requestData (start query : Value) (withBuffers : Bool) :
    (requestData start query withBuffers).Keeps relation := by
  refine keeps_lineAndColumn.bind fun _ => keeps_currentPath.bind fun _ => keeps_filetypes.bind fun _ => ?_
  refine keeps_currentLine.bind fun _ => ?_
  dsimp only
  split
  · exact keeps_unsavedContents.bind fun _ => (keeps_pure _).bind fun _ => keeps_pure _
  · exact (keeps_pure _).bind fun _ => keeps_pure _

theorem keeps_placeData : placeData.Keeps relation :=
  (keeps_requestData _ _ _).bind fun _ => (keeps_atCursor _).bind fun _ => keeps_pure _

end Places

section Marks

theorem keeps_clearHighlights : clearHighlights.Keeps relation := by
  refine (keeps_evaluateNumber _).bind fun found => keeps_except_bind fun items => ?_
  refine (keeps_forIn (fun highlight _ => ?_) items _).bind fun _ => keeps_pure _
  refine keeps_except_bind fun _ => keeps_except_bind fun group => ?_
  split
  · exact keeps_except_bind fun _ => (keeps_evaluate _).bind fun _ => keeps_pure _
  · exact keeps_pure _

omit [AllowsAsking relation] in
/-- A number that is present is compared with its limit before it is used. -/
theorem keeps_limited [Chains relation] {next : Value → Act Workspace α} (rest : ∀ value, (next value).Keeps relation)
    (number limit : Value) :
    (if number.isPresent then do
        if ← limit.less number then pure limit >>= next else pure number >>= next
      else pure number >>= next : Act Workspace α).Keeps relation := by
  split
  · refine keeps_except_bind fun isPast => ?_
    cases isPast <;> exact (keeps_pure _).bind rest
  · exact (keeps_pure _).bind rest

omit [AllowsAsking relation] in
theorem keeps_clamp [Chains relation] (line column : Value) : (clamp line column).Keeps relation := by
  refine keeps_buffer.bind fun buffer => keeps_limited (fun line => ?_) _ _
  refine keeps_except_bind fun _ => keeps_except_bind fun index => keeps_except_bind fun text => ?_
  exact keeps_limited (fun _ => keeps_pure _) _ _

theorem keeps_highlight (line column lineEnd columnEnd : Value) (isError : Bool) :
    (highlight line column lineEnd columnEnd isError).Keeps relation :=
  (keeps_clamp _ _).bind fun _ => (keeps_clamp _ _).bind fun _ => keeps_evaluateInt _

theorem keeps_locationItem (diagnostic : Value) : (locationItem diagnostic).Keeps relation := by
  refine keeps_except_bind fun location => keeps_except_bind fun path => ?_
  refine (keeps_bufferNumber path true).bind fun buffer => ?_
  iterate 6 refine keeps_except_bind fun _ => ?_
  exact keeps_pure _

theorem keeps_locationItems (diagnostics : Value) : (locationItems diagnostics).Keeps relation := by
  refine keeps_except_bind fun items => (keeps_forIn (fun diagnostic _ => ?_) items _).bind fun _ => keeps_pure _
  exact (keeps_locationItem diagnostic).bind fun _ => keeps_pure _

theorem keeps_setLocationList (items : Value) : (setLocationList items).Keeps relation :=
  (keeps_evaluate _).bind fun _ => keeps_pure _

end Marks

end Editor

namespace Client.Diagnostics

open Act Editor

variable {relation : Workspace → Workspace → Prop} [AllowsAsking relation]

theorem keeps_highlightRange (range : Value) (isError : Bool) : (highlightRange range isError).Keeps relation := by
  iterate 10 refine keeps_except_bind fun _ => ?_
  exact (keeps_highlight _ _ _ _ _).bind fun _ => keeps_pure _

theorem keeps_highlightDiagnostic (diagnostic : Value) : (highlightDiagnostic diagnostic).Keeps relation := by
  unfold highlightDiagnostic
  refine keeps_except_bind fun extent => keeps_except_bind fun isError => keeps_except_bind fun start => ?_
  refine keeps_except_bind fun line => keeps_except_bind fun isBefore => ?_
  have ranges : (do
      for range in ← (← diagnostic.field "ranges").elements do
        highlightRange range isError : Act Workspace Unit).Keeps relation := by
    refine keeps_except_bind fun _ => keeps_except_bind fun ranges => ?_
    refine (keeps_forIn (fun range _ => ?_) ranges _).bind fun _ => keeps_pure _
    exact (keeps_highlightRange range isError).bind fun _ => keeps_pure _
  cases isBefore with
  | true =>
      iterate 5 refine keeps_except_bind fun _ => ?_
      exact (keeps_highlight _ _ _ _ _).bind fun _ => ranges
  | false => exact (keeps_highlightRange extent isError).bind fun _ => ranges

theorem keeps_grouped (diagnostics : Value) : (grouped diagnostics).Keeps relation := by
  refine keeps_except_bind fun items => ?_
  refine (keeps_foldlM (fun groups diagnostic => ?_) items _).bind fun _ => keeps_except _
  refine keeps_except_bind fun location => keeps_except_bind fun path => ?_
  refine (keeps_bufferNumber path true).bind fun buffer => ?_
  iterate 3 refine keeps_except_bind fun _ => ?_
  exact keeps_pure _

end Client.Diagnostics

end Typeahead

import Typeahead.Editor.Message
import Typeahead.Proofs.Acts

namespace Typeahead.Editor

/-! What the editor answers depends on its prepared answers alone, and asking it or telling it something only adds
an event. -/

/-- What the editor answers for an expression. -/
def answerTo (workspace : Workspace) (expression : String) : Except Fault Value :=
  match workspace.editor.answer? expression with
  | some (.ok value) => .ok value
  | some (.error complaint) => .error (.editor complaint)
  | none => .error (.editor ("no value for " ++ expression))

def intAnswerTo (workspace : Workspace) (expression : String) : Except Fault Int := do
  (← answerTo workspace expression).toInt

theorem run_evaluate (expression : String) (workspace : Workspace) :
    (evaluate expression).run.run workspace =
      (answerTo workspace expression, { workspace with events := workspace.events ++ [.evaluate expression] }) := by
  unfold evaluate answerTo
  iterate 2 refine (Act.run_bind_ok rfl).trans ?_
  dsimp only
  cases workspace.editor.answer? expression with
  | none => rfl
  | some answer =>
      cases answer with
      | ok value => rfl
      | error complaint => rfl

theorem run_evaluateInt (expression : String) (workspace : Workspace) :
    (evaluateInt expression).run.run workspace =
      (intAnswerTo workspace expression, { workspace with events := workspace.events ++ [.evaluate expression] }) := by
  have asked := run_evaluate expression workspace
  unfold evaluateInt intAnswerTo
  cases answered : answerTo workspace expression with
  | error fault =>
      rw [answered] at asked
      exact Act.run_bind_error asked
  | ok value =>
      rw [answered] at asked
      exact (Act.run_bind_ok asked).trans (Act.run_lift_except _ _)

theorem run_buffer (workspace : Workspace) :
    buffer.run.run workspace = (Value.nth workspace.editor.buffers workspace.editor.current, workspace) :=
  (Act.run_bind_ok (Act.run_get workspace)).trans (Act.run_lift_except _ _)

theorem run_command (text : String) (workspace : Workspace) :
    (command text).run.run workspace =
      (.ok (), { workspace with events := workspace.events ++ [.command text] }) := rfl

theorem run_postMessage (text : String) (workspace : Workspace) :
    (postMessage text).run.run workspace =
      (.ok (), { workspace with events := workspace.events ++ [.command (messageCommand text)] }) := rfl

end Typeahead.Editor

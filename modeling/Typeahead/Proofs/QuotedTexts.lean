import Typeahead.Proofs.EditorAnswers
import Typeahead.Proofs.TextPieces

namespace Typeahead.Editor

/-! Commands and expressions as the editor reads them. In a literal two quotes stand for one, and a single quote ends
it. What is shown to the user stands in such a literal, and cannot end it early whatever it contains. -/

section Cuts

/-- What stands before the first literal, and the literals, each with what stands behind it up to the next one. -/
abbrev Cuts := List Char × List (List Char × List Char)

mutual

/-- Cuts what stands outside of literals. -/
def cutPlain : List Char → Option Cuts
  | [] => some ([], [])
  | character :: rest =>
    if character = '\'' then (cutLiteral rest).map fun found => ([], (found.1, found.2.1) :: found.2.2)
    else (cutPlain rest).map fun found => (character :: found.1, found.2)

/-- Cuts what stands behind an opening quote: the text that the literal denotes, and what follows the literal. -/
def cutLiteral : List Char → Option (List Char × Cuts)
  | [] => none
  | '\'' :: '\'' :: rest => (cutLiteral rest).map fun found => ('\'' :: found.1, found.2)
  | character :: rest =>
    if character = '\'' then (cutPlain rest).map fun found => ([], found)
    else (cutLiteral rest).map fun found => (character :: found.1, found.2)

end

variable {plain rest : List Char}

theorem cutPlain_append (noQuote : '\'' ∉ plain) (rest : List Char) :
    cutPlain (plain ++ rest) = (cutPlain rest).map fun found => (plain ++ found.1, found.2) := by
  induction plain with
  | nil => simp
  | cons character plain ih =>
      obtain ⟨notQuote, noQuote⟩ := not_or.mp (mt List.mem_cons.mpr noQuote)
      rw [List.cons_append, cutPlain, if_neg (Ne.symm notQuote), ih noQuote, Option.map_map]
      rfl

theorem cutPlain_of_not_mem (noQuote : '\'' ∉ plain) : cutPlain plain = some (plain, []) := by
  simpa [cutPlain] using cutPlain_append noQuote []

/-- The quote behind an escaped text ends the literal, unless another quote follows it. -/
theorem cutLiteral_escapeChars (ends : '\'' ∉ rest.head?) (text : List Char) :
    cutLiteral (escapeChars text ++ '\'' :: rest) = (cutPlain rest).map fun found => (text, found) := by
  induction text with
  | nil =>
      cases rest with
      | nil => rfl
      | cons next rest =>
          have single : next ≠ '\'' := by simpa using ends
          rw [escapeChars, List.nil_append, cutLiteral, if_pos rfl]
          intro others _ same
          exact single (List.cons.inj same).1
  | cons character text ih =>
      by_cases quote : character = '\''
      · rw [escapeChars, if_pos quote, List.cons_append, List.cons_append, cutLiteral, ih, Option.map_map, quote]
        rfl
      · rw [escapeChars, if_neg quote, List.cons_append, cutLiteral, if_neg quote, ih, Option.map_map]
        · rfl
        · intro others isQuote
          exact absurd isQuote quote

end Cuts

/-- A command or an expression as the editor reads it: what stands before its first literal, and what the literals
denote, each with what stands behind it up to the next one or the end. -/
structure Reading where
  before : String
  literals : List (String × String)
  deriving DecidableEq

def Reading.ofCuts (cuts : Cuts) : Reading :=
  ⟨String.ofList cuts.1, cuts.2.map fun literal => (String.ofList literal.1, String.ofList literal.2)⟩

/-- How a text is read. A text with a literal that does not end cannot be read. -/
def reading? (text : String) : Option Reading := (cutPlain text.toList).map Reading.ofCuts

section Reading

variable {text opening closing before after : String}

theorem reading?_of_not_mem (noQuote : '\'' ∉ text.toList) : reading? text = some ⟨text, []⟩ := by
  rw [reading?, cutPlain_of_not_mem noQuote]
  simp [Reading.ofCuts]

/-- A literal that is opened behind a text without quotes. -/
theorem reading?_literal (opens : opening = before ++ "'") (closes : closing = "'" ++ after)
    (noQuote : '\'' ∉ before.toList) (ends : '\'' ∉ after.toList.head?) (text : String) :
    reading? (opening ++ escape text ++ closing) =
      (reading? after).map fun rest => ⟨before, (text, rest.before) :: rest.literals⟩ := by
  have opened : (opening ++ escape text ++ closing).toList =
      before.toList ++ '\'' :: (escapeChars text.toList ++ '\'' :: after.toList) := by
    simp [opens, closes, escape]
  rw [reading?, opened, cutPlain_append noQuote, cutPlain, if_pos rfl, cutLiteral_escapeChars ends, reading?]
  simp [Option.map_map, Function.comp_def, Reading.ofCuts]

/-- The only literal, between two texts without quotes. -/
theorem reading?_last_literal (opens : opening = before ++ "'") (closes : closing = "'" ++ after)
    (noQuote : '\'' ∉ before.toList) (noOther : '\'' ∉ after.toList) (text : String) :
    reading? (opening ++ escape text ++ closing) = some ⟨before, [(text, after)]⟩ := by
  have ends : '\'' ∉ after.toList.head? := fun isFirst => noOther (List.mem_of_head? isFirst)
  rw [reading?_literal opens closes noQuote ends, reading?_of_not_mem noOther]
  rfl

end Reading

section Shown

theorem reading?_messageCommand (text : String) :
    reading? (messageCommand text) = some ⟨"echohl WarningMsg | echom ", [(text, " | echohl None")]⟩ :=
  reading?_last_literal (by decide) (by decide) (by decide) (by decide) text

theorem reading?_noticeCommand (text : String) :
    reading? (noticeCommand text) = some ⟨"echohl WarningMsg | echo ", [(text, " | echohl None")]⟩ :=
  reading?_last_literal (by decide) (by decide) (by decide) (by decide) text

theorem reading?_lineCommand (keeps : Bool) (line : String) :
    reading? (lineCommand keeps line) = some ⟨if keeps then "echom " else "echo ", [(line, "")]⟩ := by
  cases keeps with
  | true => exact reading?_last_literal (by decide) (by decide) (by decide) (by decide) line
  | false => exact reading?_last_literal (by decide) (by decide) (by decide) (by decide) line

theorem reading?_dialogExpression (message : String) (choices : List String) (preset : Int) :
    reading? (dialogExpression message choices (.int preset)) =
      some ⟨"confirm(", [(message, ", "), (Text.join "\n" choices, ", " ++ toString preset ++ ")")]⟩ := by
  let last := ", " ++ toString preset ++ ")"
  have noQuote : '\'' ∉ last.toList := by
    have digits : '\'' ∉ (toString preset).toList := Text.not_mem_number (by decide) (by decide) preset
    simpa [last] using digits
  have second : reading? (", '" ++ escape (Text.join "\n" choices) ++ ("'" ++ last)) =
      some ⟨", ", [(Text.join "\n" choices, last)]⟩ :=
    reading?_last_literal (by decide) rfl (by decide) noQuote _
  have written : dialogExpression message choices (.int preset) =
      "confirm('" ++ escape message ++ ("'" ++ (", '" ++ escape (Text.join "\n" choices) ++ ("'" ++ last))) := by
    have between : "', '" = "'" ++ ", '" := by decide
    have behind : "', " = "'" ++ ", " := by decide
    change "confirm('" ++ escape message ++ "', '" ++ escape (Text.join "\n" choices) ++ "', " ++ toString preset ++
      ")" = _
    rw [between, behind]
    simp only [last, String.append_assoc]
  have opens : "confirm('" = "confirm(" ++ "'" := by decide
  rw [written, reading?_literal opens rfl (by decide) (by simp), second]
  rfl

/-- Showing a text line by line gives one command for each line. -/
theorem run_showText (keeps : Bool) (text : String) (workspace : Workspace) :
    (showText keeps text).run.run workspace =
      (.ok (), { workspace with
        events := workspace.events ++ ((Text.split '\n' text).map (lineCommand keeps)).map .command }) := by
  unfold showText
  generalize Text.split '\n' text = lines
  induction lines generalizing workspace with
  | nil =>
      rw [List.map_nil, List.map_nil, List.append_nil]
      rfl
  | cons line lines ih =>
      have first : (command (lineCommand keeps line)).run.run workspace =
          (.ok (), { workspace with events := workspace.events ++ [.command (lineCommand keeps line)] }) := rfl
      refine (Act.run_bind_ok first).trans ((ih _).trans ?_)
      rw [List.append_assoc]
      rfl

theorem run_dialog (message : String) (choices : List String) (preset : Int) (workspace : Workspace) :
    (dialog message choices (.int preset)).run.run workspace =
      ((intAnswerTo workspace (dialogExpression message choices (.int (preset + 1)))).map (· - 1),
        { workspace with
          events := workspace.events ++ [.evaluate (dialogExpression message choices (.int (preset + 1)))] }) := by
  refine (Act.run_bind_ok rfl).trans ?_
  rw [Act.run_bind_pure, run_evaluateInt]

end Shown

/-- Whatever is said to the user, the editor reads it as one literal that denotes exactly the text that was meant, with
the fixed words around it; a text that is shown line by line is one such command for each line, and a question has two
literals, the question and the choices. -/
theorem shown_texts_stay_in_quotes (workspace : Workspace) :
    (∀ text, ∃ sent,
      (postMessage text).run.run workspace =
        (.ok (), { workspace with events := workspace.events ++ [.command sent] }) ∧
      reading? sent = some ⟨"echohl WarningMsg | echom ", [(text, " | echohl None")]⟩) ∧
    (∀ text, ∃ sent,
      (postNotice text).run.run workspace =
        (.ok (), { workspace with events := workspace.events ++ [.command sent] }) ∧
      reading? sent = some ⟨"echohl WarningMsg | echo ", [(text, " | echohl None")]⟩) ∧
    (∀ keeps text, ∃ sent : List String,
      (showText keeps text).run.run workspace =
        (.ok (), { workspace with events := workspace.events ++ sent.map .command }) ∧
      List.Forall₂ (fun line command =>
        reading? command = some ⟨if keeps then "echom " else "echo ", [(line, "")]⟩) (Text.split '\n' text) sent) ∧
    ∀ message choices preset, ∃ sent,
      (dialog message choices (.int preset)).run.run workspace =
        ((intAnswerTo workspace sent).map (· - 1),
          { workspace with events := workspace.events ++ [.evaluate sent] }) ∧
      reading? sent = some ⟨"confirm(", [(message, ", "),
        (Text.join "\n" choices, ", " ++ toString (preset + 1) ++ ")")]⟩ := by
  refine ⟨fun text => ⟨_, rfl, reading?_messageCommand text⟩, fun text => ⟨_, rfl, reading?_noticeCommand text⟩, ?_, ?_⟩
  · intro keeps text
    refine ⟨_, run_showText keeps text workspace, ?_⟩
    rw [List.forall₂_map_right_iff, List.forall₂_same]
    exact fun line _ => reading?_lineCommand keeps line
  · intro message choices preset
    exact ⟨_, run_dialog message choices preset workspace, reading?_dialogExpression message choices (preset + 1)⟩

end Typeahead.Editor

import Typeahead.Proofs.ModerateFloats
import Typeahead.Proofs.QuotedTexts

namespace Typeahead

/-! A text that is shown within the width of the window. It is cut to nine tenths of the width, and what is left is
shown line by line. The cut does not see to it that one line is left, so a text is shown in one line only if no line
end is among the characters that are left. -/

namespace Editor

theorem shownLength_exists {width : Int} (notNegative : 0 ≤ width) (word : width < 2 ^ 64) :
    ∃ shown : Nat, shownLength width = .ok shown := by
  obtain ⟨columns, rfl⟩ := Int.eq_ofNat_of_zero_le notNegative
  have nineTenths : Decimal.Moderate (-53) (0.9 : Float).toModel.unpack := .finite _ (by decide)
  have columnsModerate : Decimal.Moderate 250 (Float.ofInt columns).toModel.unpack :=
    Decimal.moderate_float_ofNat (by omega)
  exact Decimal.truncate_of_moderate (Decimal.moderate_mul columnsModerate nineTenths (by omega) (by omega))

/-- The characters in one line, with a blank for each line end. -/
def inOneLine (text : List Char) : String :=
  String.ofList (text.map fun character => if character = '\n' then ' ' else character)

/-- A command shows a line, as the editor reads it. -/
def Shows (line command : String) : Prop := reading? command = some ⟨"echo ", [(line, "")]⟩

/-- The ruler and the pending command are out of the way while something is shown, and then as they were. -/
def outOfTheWay (ruler pending : Int) (shown : List String) : List String :=
  "set noruler noshowcmd" :: shown ++ ["let &ruler = " ++ toString ruler, "let &showcmd = " ++ toString pending]

section Runs

variable {workspace : Workspace} {text : String} {width ruler pending : Int} {shown : Nat}

theorem run_showWithinWidth (isWidth : intAnswerTo workspace "&columns" = .ok width)
    (isShown : shownLength width = .ok shown) (isRuler : intAnswerTo workspace "&ruler" = .ok ruler)
    (isPending : intAnswerTo workspace "&showcmd" = .ok pending) :
    (showWithinWidth text).run.run workspace =
      (.ok (), { workspace with events := workspace.events ++
        (["&columns", "&ruler", "&showcmd"].map .evaluate ++
          (outOfTheWay ruler pending
            ((Text.split '\n' (String.ofList (text.toList.take shown))).map (lineCommand false))).map .command) }) := by
  have askedWidth := run_evaluateInt "&columns" workspace
  rw [isWidth] at askedWidth
  let afterWidth : Workspace := { workspace with events := workspace.events ++ [.evaluate "&columns"] }
  have computed : (liftM (shownLength width) : Act Workspace Int).run.run afterWidth = (.ok shown, afterWidth) := by
    rw [Act.run_lift_except, isShown]
  have askedRuler := run_evaluateInt "&ruler" afterWidth
  have sameRuler : intAnswerTo afterWidth "&ruler" = .ok ruler := isRuler
  rw [sameRuler] at askedRuler
  let afterRuler : Workspace := { afterWidth with events := afterWidth.events ++ [.evaluate "&ruler"] }
  have askedPending := run_evaluateInt "&showcmd" afterRuler
  have samePending : intAnswerTo afterRuler "&showcmd" = .ok pending := isPending
  rw [samePending] at askedPending
  unfold showWithinWidth
  rw [Act.run_bind_ok askedWidth, Act.run_bind_ok computed, Act.run_bind_ok askedRuler, Act.run_bind_ok askedPending,
    Act.run_bind_ok (run_command _ _), Act.run_bind_ok (run_showText false _ _), Act.run_bind_ok (run_command _ _),
    run_command, Value.slice_to]
  simp [afterRuler, afterWidth, outOfTheWay]

theorem exists_single_iff (lines : List String) (text : List Char)
    (each : List.Forall₂ Shows (Text.split '\n' (String.ofList text)) lines) :
    (∃ line, lines = [line] ∧ Shows (inOneLine text) line) ↔ '\n' ∉ text := by
  constructor
  · rintro ⟨line, rfl, _⟩
    have count := each.length_eq
    rw [Text.length_split, String.toList_ofList, List.length_singleton] at count
    exact List.count_eq_zero.mp (by omega)
  · intro noEnd
    have same : inOneLine text = String.ofList text := by
      have kept : text.map (fun character => if character = '\n' then ' ' else character) = text.map id := by
        refine List.map_congr_left fun character member => if_neg ?_
        rintro rfl
        exact noEnd member
      rw [inOneLine, kept, List.map_id]
    rw [Text.split_of_not_mem (by rwa [String.toList_ofList])] at each
    cases each with
    | cons first rest =>
        cases rest
        exact ⟨_, rfl, same ▸ first⟩

end Runs

/-- For every text and every width, the editor is told to hide the ruler and the pending command, to show the lines of
what fits of the text, one by one, and to restore both. One line is shown, with blanks for the line ends of what fits,
if and only if no line end is in it. -/
theorem shown_in_one_line_iff {workspace : Workspace} {width ruler pending : Int} (text : String)
    (isWidth : intAnswerTo workspace "&columns" = .ok width) (notNegative : 0 ≤ width) (word : width < 2 ^ 64)
    (isRuler : intAnswerTo workspace "&ruler" = .ok ruler)
    (isPending : intAnswerTo workspace "&showcmd" = .ok pending) :
    ∃ (shown : Nat) (lines : List String), shownLength width = .ok shown ∧
      (showWithinWidth text).run.run workspace =
        (.ok (), { workspace with events := workspace.events ++
          (["&columns", "&ruler", "&showcmd"].map .evaluate ++ (outOfTheWay ruler pending lines).map .command) }) ∧
      List.Forall₂ Shows (Text.split '\n' (String.ofList (text.toList.take shown))) lines ∧
      lines.length = (text.toList.take shown).count '\n' + 1 ∧
      ((∃ line, lines = [line] ∧ Shows (inOneLine (text.toList.take shown)) line) ↔
        '\n' ∉ text.toList.take shown) := by
  obtain ⟨shown, isShown⟩ := shownLength_exists notNegative word
  have each : List.Forall₂ Shows (Text.split '\n' (String.ofList (text.toList.take shown)))
      ((Text.split '\n' (String.ofList (text.toList.take shown))).map (lineCommand false)) := by
    rw [List.forall₂_map_right_iff, List.forall₂_same]
    exact fun line _ => reading?_lineCommand false line
  refine ⟨shown, _, isShown, run_showWithinWidth isWidth isShown isRuler isPending, each, ?_,
    exists_single_iff _ _ each⟩
  rw [List.length_map, Text.length_split, String.toList_ofList]

section Windows

/-- An editor with a window of a width, which shows the ruler but not the pending command. -/
def windowOf (width : String) : Workspace :=
  { editor := { answers :=
    [("&columns", .ok (.text width)), ("&ruler", .ok (.text "1")), ("&showcmd", .ok (.text "0"))] } }

end Windows

/-- In twenty columns eighteen characters are shown, and the line end is not among them. -/
theorem shown_in_one_line_iff_cut_before_end :
    intAnswerTo (windowOf "20") "&columns" = .ok 20 ∧ shownLength 20 = .ok 18 ∧
      ∃ line, Shows "unknown type name " line ∧
        (showWithinWidth "unknown type name 'foo'\nint x;").run.run (windowOf "20") =
          (.ok (), { windowOf "20" with events :=
            ["&columns", "&ruler", "&showcmd"].map .evaluate ++ (outOfTheWay 1 0 [line]).map .command }) := by
  have isWidth : intAnswerTo (windowOf "20") "&columns" = .ok 20 := rfl
  have eighteen : shownLength 20 = .ok 18 := rfl
  obtain ⟨shown, lines, isShown, ran, _, _, single⟩ :=
    shown_in_one_line_iff "unknown type name 'foo'\nint x;" isWidth (by decide) (by decide) rfl rfl
  have isEighteen : shown = 18 := by
    have same := Except.ok.inj (isShown.symm.trans eighteen)
    omega
  subst isEighteen
  obtain ⟨line, rfl, shows⟩ := single.mpr (by decide)
  exact ⟨isWidth, eighteen, line, shows, ran⟩

/-- A text of two lines is shown by two commands, and not by one between those that hide and restore the ruler. -/
theorem two_lines_shown_by_two_commands :
    (showWithinWidth "unused variable\nint x;").run.run (windowOf "80") =
        (.ok (), { windowOf "80" with events :=
          ["&columns", "&ruler", "&showcmd"].map .evaluate ++
            (outOfTheWay 1 0 ["echo 'unused variable'", "echo 'int x;'"]).map .command }) ∧
      ¬ ∃ line, (showWithinWidth "unused variable\nint x;").run.run (windowOf "80") =
        (.ok (), { windowOf "80" with events :=
          ["&columns", "&ruler", "&showcmd"].map .evaluate ++ (outOfTheWay 1 0 [line]).map .command }) := by
  have fits : shownLength 80 = .ok (72 : Nat) := rfl
  have lines : (Text.split '\n' (String.ofList ("unused variable\nint x;".toList.take 72))).map (lineCommand false) =
      ["echo 'unused variable'", "echo 'int x;'"] := by decide
  have ran : (showWithinWidth "unused variable\nint x;").run.run (windowOf "80") = _ :=
    run_showWithinWidth rfl fits rfl rfl
  rw [lines] at ran
  refine ⟨ran, ?_⟩
  rintro ⟨line, single⟩
  have lengths : 8 = 7 := congrArg (fun result => result.2.events.length) (ran.symm.trans single)
  cases lengths

end Editor

end Typeahead

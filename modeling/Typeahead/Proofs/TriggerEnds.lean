import Typeahead.Completer.Basic
import Typeahead.Proofs.Acts

namespace Typeahead

/-! Triggers before a column. The walk from the column backwards compares a trigger with the text before it,
last character first, so it answers whether the reversed trigger starts the reversed text. -/

namespace Trigger

variable {letters : List Char} {column : Nat}

theorem reverse_take_succ (inside : column < letters.length) :
    (letters.take (column + 1)).reverse = letters[column] :: (letters.take column).reverse := by
  rw [List.take_succ_eq_append_getElem inside, List.reverse_concat]

theorem endsBackwards_eq {trigger : List Char} (nonempty : trigger ≠ []) (walked : Nat)
    (within : column ≤ letters.length) :
    endsBackwards letters column (walked + 1) trigger =
      .ok (decide (trigger <+: (letters.take (column - walked)).reverse)) := by
  -- the invariant: as many letters as have been walked over stand between the column and what is compared
  induction trigger generalizing walked with
  | nil => exact absurd rfl nonempty
  | cons character rest ih =>
      simp only [endsBackwards]
      by_cases left : walked < column
      · obtain ⟨place, isPlace⟩ : ∃ place, column - walked = place + 1 := ⟨column - walked - 1, by omega⟩
        have inside : place < letters.length := by omega
        have before : (column : Int) - (walked + 1) = place := by omega
        have notNegative : ¬ (place : Int) < 0 := by omega
        rw [before, if_neg notNegative, Value.nth_of_lt inside, isPlace, reverse_take_succ inside]
        change (if letters[place] != character then .ok false else if rest.isEmpty then .ok true
          else endsBackwards letters column (walked + 1 + 1) rest) = _
        by_cases same : letters[place] = character
        · cases rest with
          | nil => simp [same]
          | cons next rest =>
              have later := ih (by simp) (walked + 1)
              have remaining : column - (walked + 1) = place := by omega
              rw [remaining] at later
              simpa [same] using later
        · simp [same, Ne.symm same]
      · have before : (column : Int) - (walked + 1) < 0 := by omega
        have none : column - walked = 0 := by omega
        rw [if_pos before, none]
        simp

theorem endsAt_eq {trigger : List Char} (nonempty : trigger ≠ []) (within : column ≤ letters.length) :
    endsAt letters column trigger = .ok (decide (trigger <:+ letters.take column)) := by
  have reversed : trigger.reverse ≠ [] := by simpa using nonempty
  have walked := endsBackwards_eq reversed 0 within
  simp only [List.reverse_prefix, Nat.sub_zero] at walked
  have notEmpty : trigger.isEmpty = false := by simpa using nonempty
  simpa [endsAt, notEmpty] using walked

theorem anyEndsAt_eq {triggers : List String} (nonempty : ∀ trigger ∈ triggers, trigger ≠ "")
    (within : column ≤ letters.length) :
    anyEndsAt letters column triggers = .ok (decide (∃ trigger ∈ triggers, trigger.toList <:+ letters.take column)) := by
  induction triggers with
  | nil => simp [anyEndsAt]
  | cons trigger triggers ih =>
      have notEmpty : trigger.toList ≠ [] := by simpa using nonempty trigger List.mem_cons_self
      have later := ih fun other listed => nonempty other (List.mem_cons_of_mem _ listed)
      rw [anyEndsAt, endsAt_eq notEmpty within, later]
      change (if decide (trigger.toList <:+ letters.take column) then Except.ok true else Except.ok _) = _
      by_cases ends : trigger.toList <:+ letters.take column <;> simp [ends]

end Trigger

namespace Completer

variable {σ : Type} {supported filetypes : List String} {request : Value} {line : String} {column : Int}

/-- The filetype that counts: the first supported one, or else the first. -/
def chosenFiletype (supported filetypes : List String) (nonempty : filetypes ≠ []) : String :=
  (filetypes.find? (· ∈ supported)).getD (filetypes.head nonempty)

theorem same_text (left right : String) : (Value.text left).same (.text right) = (left == right) := by
  simp [Value.same]

theorem currentFiletype_texts (supported : List String) (nonempty : filetypes ≠ []) :
    currentFiletype supported (Value.texts filetypes) = .ok (.text (chosenFiletype supported filetypes nonempty)) := by
  have known : ((filetypes.map Value.text).find? fun filetype => supported.any fun name => filetype.same (.text name)) =
      (filetypes.find? (· ∈ supported)).map Value.text := by
    rw [List.find?_map]
    congr 2
    funext filetype
    rw [Bool.eq_iff_iff]
    simp [same_text]
  have starts : 0 < (filetypes.map Value.text).length := by simpa [List.length_pos_iff] using nonempty
  have first : (filetypes.map Value.text)[0] = .text (filetypes.head nonempty) := by
    rw [List.getElem_map, List.getElem_zero]
  have otherwise : (Value.list (filetypes.map Value.text)).item 0 = .ok (.text (filetypes.head nonempty)) := by
    rw [← first]
    exact Value.nth_of_lt starts
  simp only [currentFiletype, Value.texts, Value.elements, bind, Except.bind, known, chosenFiletype]
  cases filetypes.find? (· ∈ supported) with
  | none => exact otherwise
  | some filetype => rfl

theorem triggerStandsBefore_eq (table : TriggerTable) (hasLine : request.field "line_value" = .ok (.text line))
    (hasColumn : request.field "start_column" = .ok (.int column))
    (hasFiletypes : request.field "filetypes" = .ok (Value.texts filetypes)) (nonempty : filetypes ≠ []) :
    triggerStandsBefore table supported request =
      if line.length = 0 ∨ line.length < column then .ok false
      else Trigger.anyEndsAt line.toList column (table.triggers (chosenFiletype supported filetypes nonempty)) := by
  simp only [triggerStandsBefore, hasLine, hasColumn, hasFiletypes, bind, Except.bind, Value.size, Value.minus,
    Value.number?, Value.less, currentFiletype_texts supported nonempty, Value.asText, Value.asInt]
  by_cases empty : line.length = 0
  · rw [if_pos (beq_iff_eq.mpr empty), if_pos (.inl empty)]
    rfl
  · rw [if_neg (by simpa using empty)]
    by_cases past : line.length < column
    · have beyond : ¬ column - 1 < line.length := by omega
      rw [if_pos (by simpa using beyond), if_pos (.inr past)]
      rfl
    · have within : column - 1 < line.length := by omega
      rw [if_neg (by simpa using within), if_neg (by simp [empty, past])]

/-- A completer that waits for triggers never fails on a line with a column that is not negative and with some
filetypes, provided that no trigger of the filetype that counts is empty. It is used if and only if the column lies in
the line or at its end and one of these triggers ends the text before the column. -/
theorem appliesByTrigger_decides (core : σ → Core) (state : σ × Workspace)
    (hasLine : request.field "line_value" = .ok (.text line))
    (hasColumn : request.field "start_column" = .ok (.int column))
    (hasFiletypes : request.field "filetypes" = .ok (Value.texts filetypes)) (fromStart : 0 ≤ column)
    (someFiletype : filetypes ≠ [])
    (nonempty : ∀ trigger ∈ (core state.1).settings.triggers.triggers (chosenFiletype supported filetypes someFiletype),
      trigger ≠ "") :
    (appliesByTrigger core supported request).run.run state =
      (.ok (decide (column ≤ line.length ∧
        ∃ trigger ∈ (core state.1).settings.triggers.triggers (chosenFiletype supported filetypes someFiletype),
          trigger.toList <:+ line.toList.take column.toNat)), state) := by
  change (triggerStandsBefore (core state.1).settings.triggers supported request, state) = _
  rw [triggerStandsBefore_eq _ hasLine hasColumn hasFiletypes someFiletype]
  generalize (core state.1).settings.triggers.triggers (chosenFiletype supported filetypes someFiletype) = triggers
    at nonempty ⊢
  obtain ⟨place, rfl⟩ := Int.eq_ofNat_of_zero_le fromStart
  have length : line.toList.length = line.length := String.length_toList
  by_cases outside : line.length = 0 ∨ (line.length : Int) < place
  · have nothing : ¬ ((place : Int) ≤ line.length ∧ ∃ trigger ∈ triggers, trigger.toList <:+ line.toList.take place) := by
      rintro ⟨within, trigger, listed, ends⟩
      have empty : line.toList = [] := List.eq_nil_of_length_eq_zero (by omega)
      rw [empty, List.take_nil, List.suffix_nil, String.toList_eq_nil_iff] at ends
      exact nonempty trigger listed ends
    rw [if_pos outside, Int.toNat_natCast, decide_eq_false nothing]
  · have within : place ≤ line.toList.length := by omega
    rw [if_neg outside, Trigger.anyEndsAt_eq nonempty within]
    have inside : (place : Int) ≤ line.length := by omega
    simp [inside]

theorem appliesByTrigger_decides_colons :
    let request : Value := .record [("line_value", .text "a::b"), ("start_column", .int 3),
      ("filetypes", Value.texts ["text", "cpp"])]
    let core : Core := ⟨⟨[], .null, [("text", []), ("cpp", ["->", "x::", "::", ":"])]⟩, {}⟩
    (∀ trigger ∈ core.settings.triggers.triggers (chosenFiletype ["cpp"] ["text", "cpp"] (by decide)), trigger ≠ "") ∧
      (appliesByTrigger id ["cpp"] request).run.run (core, ({} : Workspace)) = (.ok true, (core, {})) := by
  intro request core
  have nonempty : ∀ trigger ∈ core.settings.triggers.triggers (chosenFiletype ["cpp"] ["text", "cpp"] (by decide)),
      trigger ≠ "" := by decide +kernel
  refine ⟨nonempty, ?_⟩
  rw [appliesByTrigger_decides id (core, {}) rfl rfl rfl (by decide) (by decide) nonempty, decide_eq_true]
  exact ⟨by decide +kernel, "::", by decide +kernel, by decide +kernel⟩

end Completer

end Typeahead

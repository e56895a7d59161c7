import Mathlib
import Typeahead.Editor.Mark
import Typeahead.Proofs.TextPieces

namespace Typeahead.Editor

/-! What the editor's commands for signs do. The editor keeps signs by buffer, each under a number that is free in its
buffer.

The library is imported whole for `Int.toInt?_repr` and `Nat.toNat?_repr`: no part of it brings them along. -/

namespace SignCommand

section Reading

/-- The number behind a name in a word of a command. -/
def numberAfter? (name word : String) : Option Int :=
  if name.toList.isPrefixOf word.toList then (String.ofList (word.toList.drop name.toList.length)).toInt? else none

/-- The command that a text stands for. -/
def ofText? (text : String) : Option SignCommand :=
  match (text.toList.splitOn ' ').map String.ofList with
  | ["sign", "unplace", "*", buffer] => (numberAfter? "buffer=" buffer).map unplaceAll
  | ["sign", "place", id, line, name, buffer] => do
    let isError ← if name = "name=YcmError" then some true else if name = "name=YcmWarning" then some false else none
    return place (← id.toNat?) (← numberAfter? "line=" line) (← numberAfter? "buffer=" buffer) isError
  | _ => none

theorem numberAfter?_append (name : String) (number : Int) : numberAfter? name (name ++ toString number) = some number := by
  have starts : name.toList.isPrefixOf (name ++ toString number).toList = true := by
    rw [List.isPrefixOf_iff_prefix, String.toList_append]
    exact List.prefix_append _ _
  rw [numberAfter?, if_pos starts, String.toList_append, List.drop_left, String.ofList_toList]
  exact Int.toInt?_repr number

theorem words_of_joined {text : String} (words : List String) (someWord : words ≠ [])
    (noBlank : ∀ word ∈ words, ' ' ∉ word.toList)
    (joined : text.toList = [' '].intercalate (words.map String.toList)) :
    (text.toList.splitOn ' ').map String.ofList = words := by
  rw [joined, List.splitOn_intercalate]
  · simp [Function.comp_def]
  · simpa using noBlank
  · simpa using someWord

theorem blank_not_mem_after {name : String} (noBlank : ' ' ∉ name.toList) (number : Int) :
    ' ' ∉ (name ++ toString number).toList := by
  rw [String.toList_append, List.mem_append]
  exact not_or.mpr ⟨noBlank, Text.not_mem_number (by decide) (by decide) number⟩

theorem words_unplaceAll (buffer : Int) : ((unplaceAll buffer).text.toList.splitOn ' ').map String.ofList =
    ["sign", "unplace", "*", "buffer=" ++ toString buffer] := by
  have joined : (unplaceAll buffer).text.toList =
      [' '].intercalate (["sign", "unplace", "*", "buffer=" ++ toString buffer].map String.toList) := by
    change ("sign unplace * buffer=" ++ toString buffer).toList = _
    generalize toString buffer = number
    simp only [List.map_cons, List.map_nil, String.toList_append, List.intercalate_cons_cons, List.intercalate_singleton]
    rfl
  refine words_of_joined _ (List.cons_ne_nil _ _) ?_ joined
  simp only [List.forall_mem_cons, List.not_mem_nil, false_imp_iff, implies_true, and_true]
  exact ⟨by decide, by decide, by decide, blank_not_mem_after (by decide) buffer⟩

theorem words_place (id : Nat) (line buffer : Int) (isError : Bool) :
    ((place id line buffer isError).text.toList.splitOn ' ').map String.ofList =
      ["sign", "place", toString id, "line=" ++ toString line, if isError then "name=YcmError" else "name=YcmWarning",
        "buffer=" ++ toString buffer] := by
  have joined : (place id line buffer isError).text.toList = [' '].intercalate (["sign", "place", toString id,
      "line=" ++ toString line, if isError then "name=YcmError" else "name=YcmWarning",
      "buffer=" ++ toString buffer].map String.toList) := by
    change (placeText (toString id) (toString line) (toString buffer) isError).toList = _
    generalize toString id = id, toString line = line, toString buffer = buffer
    unfold placeText
    simp only [List.map_cons, List.map_nil, List.intercalate_cons_cons, List.intercalate_singleton]
    simp only [String.toList_append]
    repeat rw [List.append_assoc]
    cases isError <;> rfl
  refine words_of_joined _ (List.cons_ne_nil _ _) ?_ joined
  simp only [List.forall_mem_cons, List.not_mem_nil, false_imp_iff, implies_true, and_true]
  refine ⟨by decide, by decide, Text.not_mem_numeral (by decide) id, blank_not_mem_after (by decide) line, ?_,
    blank_not_mem_after (by decide) buffer⟩
  cases isError <;> decide

/-- Each command can be read off its text. -/
theorem ofText?_text (command : SignCommand) : ofText? command.text = some command := by
  cases command with
  | unplaceAll buffer =>
      rw [ofText?, words_unplaceAll]
      simp only [numberAfter?_append, Option.map_some]
  | place id line buffer isError =>
      have isId : (toString id).toNat? = some id := Nat.toNat?_repr id
      rw [ofText?, words_place]
      cases isError with
      | true =>
          simp only [numberAfter?_append, isId]
          rfl
      | false =>
          simp only [numberAfter?_append, isId]
          rfl

end Reading

end SignCommand

/-- What a sign shows: its line, and what kind of diagnostic it stands for. -/
structure Mark where
  line : Int
  isError : Bool
  deriving DecidableEq, Repr

structure Sign extends Mark where
  id : Nat
  deriving DecidableEq, Repr

/-- The signs of each buffer. -/
abbrev Signs := Int → List Sign

/-- Carries out a command. A sign takes the place of one that has the same number in the buffer. -/
def SignCommand.apply : SignCommand → Signs → Signs
  | unplaceAll buffer, signs => Function.update signs buffer []
  | place id line buffer isError, signs =>
    Function.update signs buffer ((signs buffer).filter (·.id != id) ++ [{ id, line, isError }])

def carryOut (commands : List SignCommand) (signs : Signs) : Signs :=
  commands.foldl (fun signs command => command.apply signs) signs

def marksIn (signs : Signs) (buffer : Int) : List Mark := (signs buffer).map Sign.toMark

/-- The commands for signs among events. -/
def signCommands (events : List Event) : List SignCommand := events.filterMap fun
  | .command text => SignCommand.ofText? text
  | _ => none

theorem signCommands_append (first second : List Event) :
    signCommands (first ++ second) = signCommands first ++ signCommands second :=
  List.filterMap_append

theorem signCommands_text (command : SignCommand) : signCommands [.command command.text] = [command] := by
  simp [signCommands, SignCommand.ofText?_text]

section Draws

variable {next middle later : Nat} {commands first second : List SignCommand}
  {before after : Int → List Mark → List Mark}

/-- All signs have numbers below the next one. -/
def Below (next : Nat) (signs : Signs) : Prop := ∀ buffer, ∀ sign ∈ signs buffer, sign.id < next

/-- Commands change what is shown in each buffer in a given way, where the numbers from `next` on are free, and those
from `later` on still are afterwards. -/
structure Draws (next later : Nat) (commands : List SignCommand) (change : Int → List Mark → List Mark) : Prop where
  below : ∀ signs, Below next signs → Below later (carryOut commands signs)
  marks : ∀ signs, Below next signs → ∀ buffer,
    marksIn (carryOut commands signs) buffer = change buffer (marksIn signs buffer)

theorem draws_nil (next : Nat) : Draws next next [] fun _ shown => shown where
  below _ below := below
  marks _ _ _ := rfl

theorem Draws.congr (draws : Draws next later commands before)
    (same : ∀ buffer shown, before buffer shown = after buffer shown) : Draws next later commands after where
  below := draws.below
  marks signs below buffer := (draws.marks signs below buffer).trans (same _ _)

theorem Draws.append (draws : Draws next middle first before) (others : Draws middle later second after) :
    Draws next later (first ++ second) fun buffer shown => after buffer (before buffer shown) := by
  have runs (signs : Signs) : carryOut (first ++ second) signs = carryOut second (carryOut first signs) :=
    List.foldl_append
  constructor
  · intro signs below
    rw [runs]
    exact others.below _ (draws.below signs below)
  · intro signs below buffer
    rw [runs, others.marks _ (draws.below signs below), draws.marks signs below]

theorem draws_unplaceAll (next : Nat) (buffer : Int) :
    Draws next next [.unplaceAll buffer] fun other shown => if other = buffer then [] else shown := by
  constructor
  · intro signs below other
    by_cases same : other = buffer
    · subst same
      simp [carryOut, SignCommand.apply]
    · simpa [carryOut, SignCommand.apply, same] using below other
  · intro signs below other
    by_cases same : other = buffer
    · subst same
      simp [carryOut, SignCommand.apply, marksIn]
    · simp [carryOut, SignCommand.apply, marksIn, same]

theorem draws_place (next : Nat) (line buffer : Int) (isError : Bool) :
    Draws next (next + 1) [.place next line buffer isError] fun other shown =>
      if other = buffer then shown ++ [⟨line, isError⟩] else shown := by
  -- the number is free, so no sign gives way
  have free (signs : Signs) (below : Below next signs) : (signs buffer).filter (·.id != next) = signs buffer := by
    rw [List.filter_eq_self]
    intro sign member
    simpa using Nat.ne_of_lt (below buffer sign member)
  constructor
  · intro signs below other sign member
    by_cases same : other = buffer
    · subst same
      simp only [carryOut, SignCommand.apply, List.foldl_cons, List.foldl_nil, Function.update_self, free signs below,
        List.mem_append, List.mem_singleton] at member
      obtain old | new := member
      · exact Nat.lt_succ_of_lt (below other sign old)
      · rw [new]
        exact Nat.lt_succ_self next
    · simp only [carryOut, SignCommand.apply, List.foldl_cons, List.foldl_nil, Function.update_of_ne same] at member
      exact Nat.lt_succ_of_lt (below other sign member)
  · intro signs below other
    by_cases same : other = buffer
    · subst same
      simp [carryOut, SignCommand.apply, marksIn, free signs below]
    · simp [carryOut, SignCommand.apply, marksIn, same]

end Draws

end Typeahead.Editor

import Typeahead.Value.Access

namespace Typeahead.Insertion

/-! Fitting a completion to the text behind the cursor: what stands there already is not inserted again. -/

/-- Where a text first occurs in another. -/
def indexOf? (part : List Char) : List Char → Option Nat
  | [] => if part.isEmpty then some 0 else none
  | character :: rest =>
    if part.isPrefixOf (character :: rest) then some 0 else (indexOf? part rest).map (· + 1)

/-- The last `length` characters. -/
def ending (length : Nat) (text : List Char) : List Char := text.drop (text.length - length)

/-- Looks for ever longer endings of `left` at the start of `right`, jumping to where the shorter one was
found. -/
def overlapFrom (left right : List Char) (length best : Nat) : Nat :=
  if left.length < length then best
  else
    match indexOf? (ending length left) right with
    | none => best
    | some 0 => overlapFrom left right (length + 1) length
    | some (found + 1) =>
      let longer := length + found + 1
      if ending longer left == right.take longer then overlapFrom left right (longer + 1) longer
      else overlapFrom left right longer best
termination_by left.length + 1 - length

/-- Length of the longest ending of `left` with which `right` starts. -/
def overlapLength (left right : List Char) : Nat :=
  if left.isEmpty || right.isEmpty then 0
  else
    let shorter := min left.length right.length
    let left := ending shorter left
    let right := right.take shorter
    if left == right then shorter else overlapFrom left right 1 0

/-- A completion without the characters that follow the cursor already. -/
def fitted (completion following : List Char) : List Char :=
  completion.take (completion.length - overlapLength completion following)

def fittedText (completion following : String) : String :=
  String.ofList (fitted completion.toList following.toList)

/-- A completion item fitted to the text behind the cursor; what is shown stays whole. Items that are
neither texts nor records are dropped. -/
def adjustItem? (following : String) (item : Value) : Except Fault (Option Value) :=
  match item with
  | .record fields => do
    let fields ← if Value.Fields.has fields "abbr" then pure fields
      else do pure (Value.Fields.set fields "abbr" (← item.field "word"))
    let word ← (Value.record fields).field "word"
    let word ← match word with
      | .text word => pure word
      | value => .error (value.wrongKind "object of type " " has no len()")
    return some (.record (Value.Fields.set fields "word" (.text (fittedText word following))))
  | .text word => .ok (some (.record [("abbr", item), ("word", .text (fittedText word following))]))
  | _ => .ok none

/-- Completion items fitted to the text behind the cursor. -/
def adjust (following : String) (items : Value) : Except Fault Value :=
  if following.isEmpty then .ok items
  else do
    let adjusted ← (← items.elements).mapM (adjustItem? following)
    return .list (adjusted.filterMap id)

end Typeahead.Insertion

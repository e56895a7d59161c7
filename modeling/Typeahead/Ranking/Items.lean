import Typeahead.Ranking
import Typeahead.Value.Access

namespace Typeahead.Ranking

/-! Ranking completion items of any shape: texts, or records that have their text in a field. -/

/-- The text an item is ranked by. -/
def itemText (property : String) (item : Value) : Except Fault String :=
  if property.isEmpty then .ok item.display else (item.field property).map Value.display

/-- The items whose text matches, best first. -/
def rankItems (items : Value) (property query : String) : Except Fault Value :=
  match items with
  | .list items =>
    if query.isEmpty then .ok (.list items)
    else do
      let texts ← items.mapM (itemText property)
      let pairs := items.zip texts
      let ranked ← rank (Bytes.ofString query) (fun pair => Bytes.ofString pair.2) pairs
      return .list (ranked.map (·.1))
  | _ => .error .wrongArgument

/-- The items of an answer: a list, or a record that has the list under `words`. -/
def answerItems (answer : Value) : Except Fault Value := do
  if ← answer.holds (.text "words") then answer.field "words" else return answer

/-- The field that has the text of such items. -/
def textProperty (first : Value) : Except Fault String := do
  if ← first.holds (.text "word") then return "word"
  else if ← first.holds (.text "insertion_text") then return "insertion_text"
  else return ""

/-- Ranks the items of an answer by whichever field they have their text in. -/
def rankAnswer (answer query : Value) : Except Fault Value :=
  if !answer.isPresent then .ok (.list [])
  else do
    let items ← answerItems answer
    let property ← textProperty (← items.item 0)
    rankItems items property query.display

end Typeahead.Ranking

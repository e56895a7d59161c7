import Typeahead.Letter
import Typeahead.Workspace

namespace Typeahead.Session

/-! Sessions. A step names what is done and has the arguments as fields; its answer is a value or a fault,
together with the events it led to. A step that fails does not end the session. -/

structure Answer where
  result : Except Fault Value
  events : List Event := []

/-- What a session does at a step with a name and fields. -/
abbrev Steps (σ : Type) := String → Value → Act (σ × Workspace) Value

def textField (step : Value) (key : String) : Except Fault String := do (← step.field key).asText

def bytesField (step : Value) (key : String) : Except Fault Bytes := do
  return Bytes.ofString (← textField step key)

def fieldOr (step : Value) (key : String) (otherwise : Value) : Value := (step.field? key).getD otherwise

def flagOr (step : Value) (key : String) (otherwise : Bool) : Bool := (fieldOr step key (.bool otherwise)).isPresent

def textsField (step : Value) (key : String) : Except Fault (List String) := do (← step.field key).asTexts

/-- The items of a list; anything else has none. -/
def itemsOf : Value → List Value
  | .list items => items
  | _ => []

def fieldsOf : Value → Value.Fields
  | .record fields => fields
  | _ => []

/-- A text, or nothing as an empty one. -/
def textOrEmpty : Value → String
  | .text content => content
  | _ => ""

def intOrZero (value : Value) : Int :=
  match value.asInt with
  | .ok number => number
  | .error _ => 0

def textOrNull : Option String → Value
  | some text => .text text
  | none => .null

def unknownStep {α σ : Type} (name : String) : Act σ α := throw (.missing (.text name))

/-- Does one thing, and notes its events only. -/
def perform {σ : Type} (act : Act (σ × Workspace) Value) (state : σ × Workspace) : Answer × (σ × Workspace) :=
  let (result, after, workspace) := act.run (state.1, { state.2 with events := [] })
  (⟨result, workspace.events⟩, after, workspace)

/-- Does the steps one after the other. -/
def run {σ : Type} (steps : Steps σ) : List Value → σ × Workspace → List Answer
  | [], _ => []
  | step :: rest, state =>
    let (answer, state) := perform (do steps (← textField step "do") step) state
    answer :: run steps rest state

/-- A session on a state that may fail to be made, and then nothing is done. -/
def start {σ : Type} (made : Except Fault σ) (steps : Steps σ) (input : Value) (workspace : Workspace) :
    Answer ⊕ List Answer :=
  match made with
  | .ok state => .inr (run steps (itemsOf (fieldOr input "steps" .null)) (state, workspace))
  | .error fault => .inl ⟨.error fault, []⟩

end Typeahead.Session

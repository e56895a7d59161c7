import Typeahead.Workspace
import Typeahead.Options

namespace Typeahead

/-! Workloads: pieces of work of any size on which the parts of the library are exercised. A workload is
prepared once and can then be done again and again; it answers how much it came across. -/

/-- Something that can be done again and again, on what the earlier rounds have left. -/
abbrev Work := Act Workspace Value

/-- Prepares work of a size. -/
abbrev Workload := Nat → Act Workspace Work

namespace Workload

/-- The sum of what is counted for 0, 1, … below a size. -/
def total {σ : Type} (size : Nat) (count : Nat → Act σ Nat) : Act σ Nat :=
  (List.range size).foldlM (fun sum index => do return sum + (← count index)) 0

/-- One of some samples, which are taken in turn. -/
def inTurn {α : Type} [Inhabited α] (samples : List α) (index : Nat) : α :=
  samples.getD (index % samples.length) default

def figures (numbers : List Nat) : List Value := numbers.map fun (number : Nat) => .int number

/-- How many items a value has; what has none counts nothing. -/
def sizeOf (value : Value) : Nat :=
  match value.size with
  | .ok size => size
  | .error _ => 0

/-- Counts the commands that the editor gets meanwhile. -/
def commandsOf (act : Act Workspace Unit) : Act Workspace Nat := do
  let earlier := (← get).events.length
  act
  return ((← get).events.drop earlier).countP fun event => event matches .command _

/-- A place in a file, as requests name it. The completion starts at `start`. -/
structure Spot where
  path : String
  filetype : String
  lines : List String
  line : Nat := 0
  start : Nat := 0
  column : Nat := 0
  query : String := ""

def Spot.request (spot : Spot) : Value :=
  let filetypes := Value.texts [spot.filetype]
  .record [
    ("filepath", .text spot.path), ("filetypes", filetypes), ("line_num", .int spot.line),
    ("start_column", .int spot.start), ("column_num", .int spot.column), ("query", .text spot.query),
    ("line_value", .text (spot.lines.getD spot.line "")),
    ("file_data", .record [(spot.path,
      .record [("contents", .text (Text.join "\n" spot.lines)), ("filetypes", filetypes)])])]

/-- Does the work of a workload some times over. Work that cannot be prepared is not done. -/
def rounds (workload : Workload) (size count : Nat) (workspace : Workspace) :
    Except Fault (List (Except Fault Value)) :=
  let (prepared, workspace) := (workload size).run workspace
  prepared.map fun work => again work count workspace
where
  again (work : Work) : Nat → Workspace → List (Except Fault Value)
    | 0, _ => []
    | count + 1, workspace =>
      let (result, workspace) := work.run workspace
      result :: again work count workspace

end Workload

end Typeahead

import Typeahead.Workload.Basic
import Typeahead.Client.Diagnostics
import Typeahead.Editor.Jump
import Typeahead.Editor.Location
import Typeahead.Machine
import Typeahead.Future
import Typeahead.Pool

namespace Typeahead.Workload

/-! The editor, the machine and the pool at work. -/

/-- Jumps, messages, signs and items of the editor's list. -/
def editing : Workload := fun size => do
  let path := "/work/edited.cpp"
  modify fun workspace => { workspace with editor :=
    { buffers := [{ name := path, lines := List.replicate (size + 1) "x" }]
      answers := [("bufnr(", .ok (.text "1")), ("&columns", .ok (.text "80")), ("&ruler", .ok (.text "1")),
        ("&showcmd", .ok (.text "1"))] } }
  let place (index : Nat) : Value :=
    .record [("filepath", .text path), ("line_num", .int index), ("column_num", .int 0)]
  let finding (index : Nat) : Value :=
    .record [("location", place index), ("text", .text "it's wrong"), ("kind", .text "ERROR")]
  return do
    let signs ← commandsOf do
      let _ ← Client.Diagnostics.placeSigns 1 1 1 ((List.range size).map finding)
    let items ← Editor.locationItems (.list ((List.range size).map finding))
    let commands ← commandsOf do
      for index in List.range size do
        Editor.jump (.text path) (.int (index + 1)) (.int 1)
        Editor.postMessage "it's done"
      Editor.showWithinWidth "a text that fits"
    return .list (figures [signs, sizeOf items, commands])

/-- Values of all kinds. -/
def valuesShown : List Value :=
  [.int 7, .text " ab  ", .list [.int 1, .null], .record [("key", .float 1.5)], .text "a text of some words",
   .list [.text "one", .text "two", .text "three", .bool true], .record [("first", .list [.int 1, .int 2, .int 3]),
    ("second", .text "another value")]]

/-- Values as texts, after the interpreter for the server has been found. -/
def texts : Workload := fun size => return do
  let _ ← Machine.installedInterpreter (← get)
  let found ← total size fun index => return (inTurn valuesShown index).display.length
  return .int found

/-- Items that a pool works off, the last of which fails. -/
def pooled : Workload := fun size => return do
  let pool ← ((List.range size).foldlM (fun (pool : Pool Nat) index => pool.submit index) { limit := 4 } : Except Fault _)
  let served := (List.range pool.limit).foldl (fun pool index => pool.serve index (size + 1)) pool.shutdown
  let _ ← Value.nth served.finished 0
  let failure ← Act.on (fun workspace => (({} : Futures), workspace)) (fun after _ => after.2) do
    Futures.put "failing" {}
    Futures.settle "failing" (.error (.refused "no such item"))
    return (← Futures.outcome "failing").2
  let counted : Nat := (served.finished.map (· + 1)).foldl (· + ·) 0
  return .list [.int counted, .text ((failure.map Fault.name).getD "")]

end Typeahead.Workload

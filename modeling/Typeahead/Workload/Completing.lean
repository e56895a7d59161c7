import Typeahead.Workload.Building
import Typeahead.Completer.Available
import Typeahead.Completer.Identifier
import Typeahead.Completer.FileName
import Typeahead.Completer.Omni
import Typeahead.Completer.Semantic
import Typeahead.Completer.Analyzed
import Typeahead.Completer.Solution

namespace Typeahead.Workload

/-! The completers at work. -/

def core : Act Workspace Completer.Core := do
  return { settings := ← Completer.Settings.ofOptions (← get).options }

/-- Does something with a state that the workload starts from anew. -/
def withState {σ α : Type} (state : σ) (act : Act (σ × Workspace) α) : Act Workspace α :=
  Act.on (fun workspace => (state, workspace)) (fun after _ => after.2) act

/-- Lines with their filetypes and the columns where a completion starts and the cursor is. -/
def probes : List (String × String × Nat × Nat) :=
  [("foo.", "cpp", 4, 4), ("foo->", "c", 5, 5), ("std::", "cpp", 5, 5), ("obj.", "python", 4, 4),
   ("Mod::", "ruby", 5, 5), ("foo.bar", "cpp", 4, 7), ("plain", "python", 0, 5), ("tab:xy", "lua", 4, 6),
   ("obj#", "ocaml", 4, 4), ("$x->", "perl", 4, 4)]

/-- Whether triggers stand before completions, and whether enough has been typed. -/
def triggers : Workload := fun size => do
  let core ← core
  return do
    let found ← total size fun index => do
      let (line, filetype, start, column) := inTurn probes index
      let request := Spot.request { path := "/work/probe", filetype, lines := [line], start, column }
      let isTriggered ← Completer.triggerStandsBefore core.settings.triggers [filetype] request
      let isLong ← Completer.isLongEnough core.settings.minimum request
      return isTriggered.toNat + isLong.toNat
    return .int found

/-- The triggers of filetypes, with those that a user adds. -/
def triggerTables : Workload := fun size => do
  let names := (List.range size).map fun index => "lang" ++ toString index
  let user := Value.record (names.map fun name => (name, Value.texts [".", "->"]))
  return do
    let table ← TriggerTable.withUser user
    let counted := (names ++ ["cpp", "ruby", "python"]).map fun name => (TriggerTable.triggers table name).length
    let hook := Completer.hookPath (← get) "cpp"
    return .list [.int (table.length + counted.foldl (· + ·) 0 + hook.length : Nat),
      Value.texts (Text.sorted (TriggerTable.triggers table "ruby"))]

/-- A line that starts and ends with an identifier of its own. -/
def identifierLine (index : Nat) : String :=
  let name := "alpha_long_identifier_" ++ toString index
  name ++ " = beta + gamma * delta( epsilon, zeta, eta ) - theta / iota[ kappa ] + lambda.mu << " ++ name

/-- The identifiers of a file, those at the cursor, and the completions of what has been typed. -/
def identifiers : Workload := fun size => do
  let lines := (List.range size).map identifierLine
  let core ← core
  let spot : Spot := { path := "/work/names.cpp", filetype := "cpp", lines }
  let seen ← if size == 0 then pure [] else do
    let first ← Value.nth lines 0
    let previous ← Cursor.previous (.int 2) (lines.map String.toList) 1 0
    pure [Cursor.current first.toList 0, previous]
  let queries := (seen.zip [14, 21]).map fun (name, length) => Text.take length name
  return do
    let count ← withState ({ core } : Completer.IdentifierState) do
      let _ ← Completer.identifier.notice .fileReadyToParse spot.request
      let completed ← total queries.length fun index => do
        let query ← Value.nth queries index
        return sizeOf (← Completer.identifier.compute (Spot.request { spot with column := query.length, query }))
      let scanned := (Identifier.extract (Bytes.ofString (Text.join "\n" lines))).length
      return completed + scanned + (seen.map String.length).foldl (· + ·) 0
    return .list [.int count, Value.texts seen, Value.texts queries]

/-- The names in a folder, as paths and as files to include. -/
def fileNames : Workload := fun size => do
  let folder := Path.join (← workFolder) "headers"
  modify fun workspace => { workspace with files := workspace.files.makeFolder (Path.join folder "nested") }
  for index in List.range size do
    let path := Path.join folder ("entry_" ++ toString index)
    if index % 5 == 4 then modify fun workspace => { workspace with files := workspace.files.makeFolder path }
    else Workspace.write (path ++ ".h") (.text "") none
  let core ← core
  let source := "/work/source.cpp"
  let requestFor (line : String) : Value :=
    Spot.request { path := source, filetype := "cpp", lines := [line], start := line.length, column := line.length }
  return do
    withState ({ core, flags := { kept := [(source, ["-I", folder])] } } : Completer.FileNameState) do
      let plain ← Completer.fileName.gather (requestFor ("\"" ++ folder ++ "/"))
      let included ← Completer.fileName.gather (requestFor "#include \"")
      let applies ← Completer.fileName.shouldUse (requestFor "#include \"")
      let files := ((← plain.elements).filter fun item =>
        ((item.field? "extra_menu_info").map Value.display) == some "[File]").length
      return .list (figures [files, sizeOf plain, sizeOf included] ++
        [.bool applies, Value.texts Completer.fileName.supported])

/-- The items of the editor's own completion function. -/
def editorsFunction : Workload := fun size => do
  let items := Value.texts ["first", "second", "third", "fourth", "fifth", "sixth"]
  modify fun workspace => { workspace with editor := { workspace.editor with answers :=
    [("&omnifunc", .ok (.text "Complete")), ("Complete(1", .ok (.text "0")), ("Complete(0", .ok items)] } }
  modify fun workspace => { workspace with options := Value.Fields.set workspace.options "cache_omnifunc" (.int 1) }
  let core ← core
  return do
    withState ({ core } : Completer.OmniState) do
      Completer.OmniState.learn
      let requestFor (index : Nat) : Value :=
        Spot.request
          { path := "/work/page.cpp", filetype := "cpp", lines := List.replicate (index + 1) "foo.", line := index
            start := 4, column := 4 }
      let isUsed ← Completer.OmniState.shouldUse (requestFor 0)
      let found ← total size fun index => do return sizeOf (← Completer.OmniState.compute (requestFor index))
      return .list [.int (found + isUsed.toNat : Nat), .bool isUsed, Value.texts Completer.OmniState.keeping.supported]

/-- Completions, diagnostics and definitions from an engine for the C family. -/
def nativeEngine : Workload := fun size => do
  let path := Path.join (← get).places.install "source0.cpp"
  let place (line : Int) : Frontend.Location := ⟨path, line, 1⟩
  let finding (index : Nat) : Frontend.Diagnostic :=
    { location := place (index + 1), extent := ⟨place (index + 1), place (index + 1)⟩, kind := "E"
      text := "e" ++ toString index, long := "detail: e" ++ toString index }
  let offer (name : String) : Frontend.Completion := { insertion := name, menu := name ++ "()", returnType := "int" }
  let engine : PreparedEngine :=
    { completions := ["open", "close", "read", "write", "seek"].map offer
      diagnostics := (List.range size).map finding, definition := some (place 1), declaration := some (place 1) }
  modify fun workspace => { workspace with semantic := some engine }
  let core ← core
  let requestFor (index : Nat) : Except Fault Value := do
    let spot : Spot :=
      { path, filetype := "cpp", lines := List.replicate (size + 6) "file.", line := index, start := 5, column := 5 }
    return .record ((← spot.request.asFields) ++ [("compilation_flags", Value.texts ["-x", "c++", "-Wall"])])
  let requests ← ((List.range size).mapM requestFor : Except Fault _)
  return do
    let first ← Value.nth requests 0
    withState ({ core } : Completer.SemanticState) do
      let shown ← Completer.semantic.notice .fileReadyToParse first
      let found ← total size fun index => do
        let request ← Value.nth requests index
        let completions ← Completer.semantic.gather request
        let goal ← Completer.semantic.command (Value.texts ["GoTo"]) request
        return sizeOf completions + sizeOf goal
      let details ← Completer.semantic.detailedDiagnostic first
      let about ← Completer.semantic.debugInfo first
      return .list [.int (sizeOf shown + found + sizeOf about : Nat), ← details.field "message",
        Value.texts (Text.sorted Completer.semantic.supported)]

/-- Completions and definitions from an analysis of sources. -/
def analysis : Workload := fun size => do
  let completion (name : String) : Value :=
    .record [("name", .text name), ("description", .text "function"), ("doc", .text "")]
  let definition (line : Nat) : Definition :=
    { path := .text "/work/module.py", line := .int line, column := .int 0, description := .text "def" }
  modify fun workspace => { workspace with analysis :=
    { completions := ["append", "extend", "insert"].map completion, definitions := some [definition 1, definition 5] } }
  let core ← core
  let requests := (List.range size).map fun index =>
    Spot.request
      { path := "/work/user.py", filetype := "python", lines := List.replicate size "items.", line := index
        start := 6, column := 6 }
  return do
    let first ← Value.nth requests 0
    withState ({ core } : Completer.AnalyzedState) do
      let found ← total size fun index => do
        return sizeOf (← Completer.analyzed.gather (← Value.nth requests index))
      let goals ← Completer.analyzed.command (Value.texts ["GoToDeclaration"]) first
      return .list [.int (found + sizeOf goals : Nat), Value.texts Completer.analyzed.subcommands,
        Value.texts Completer.analyzed.supported]

/-- Solutions of projects, and the answers of a server that has not been started. -/
def solutions : Workload := fun size => do
  let folder := "/work/project"
  Workspace.write (Path.join folder "project.sln") (.text "") none
  let paths := (List.range size).map fun index => Path.joinAll folder ["part", "file_" ++ toString index ++ ".cs"]
  let completion := Value.record [("CompletionText", .text "Name"), ("DisplayText", .text "Name"), ("Description", .text "")]
  modify fun workspace => { workspace with solution := [("/autocomplete", .list [completion])] }
  let core ← core
  return do
    withState ({ core } : Completer.SolutionState) do
      let found ← total size fun index => do
        let path ← Value.nth paths index
        let (names, around) := Path.solutionsFor (← get).2 path
        return (Path.components path).length + names.length + (around == folder).toNat
      let status ← Completer.SolutionState.status
      let request := Spot.request { path := Path.join folder "main.cs", filetype := "cs", lines := ["x."], start := 2, column := 2 }
      let completions ← Completer.solution.gather request
      let isRunning ← Completer.SolutionState.isRunning
      return .list (figures [Completer.solution.help.length + sizeOf status + found, sizeOf completions, isRunning.toNat] ++
        [Value.texts Completer.solution.supported])

end Typeahead.Workload

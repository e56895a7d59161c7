import Typeahead.Session.Surroundings
import Typeahead.Completer.Cache
import Typeahead.Flags.Cache
import Typeahead.Identifier.Database
import Typeahead.Identifier.Search

namespace Typeahead.Session

/-! Sessions with what completers keep: identifiers, completions, flags and configuration files. -/

def databaseSteps : Steps Identifier.Database := fun name step => do
  let change (act : Act Identifier.Database Unit) : Act (Identifier.Database × Workspace) Value := do
    Act.on (·.1) (fun database state => (database, state.2)) act
    return .null
  let source : Except Fault Identifier.Source := do
    return ⟨← bytesField step "filetype", ← bytesField step "filepath"⟩
  match name with
  | "add" =>
    let texts ← textsField step "identifiers"
    let source ← source
    change (modify (·.add source (texts.map Bytes.ofString)))
  | "add_buffer" =>
    let source ← source
    let contents ← bytesField step "contents"
    change (Identifier.Database.addBuffer Identifier.Search.givesUp source contents (flagOr step "comments" false))
  | "add_tags" =>
    let paths ← textsField step "files"
    let (_, workspace) ← get
    change (modify fun database => paths.foldl (fun database path =>
      database.addTags (Bytes.ofString path) (Bytes.ofString ((workspace.contents? path).getD ""))) database)
  | "query" =>
    let found ← (← get).1.query (← bytesField step "query") (← bytesField step "filetype")
    return Value.texts (found.map Bytes.toString)
  | "write" => writeStep step
  | _ => unknownStep name

def cacheSteps : Steps Completer.Cache := fun name step => do
  let (cache, workspace) ← get
  match name with
  | "update" =>
    let cache : Completer.Cache := ⟨← step.field "line", ← step.field "column", ← step.field "completions"⟩
    set (cache, workspace)
    return .null
  | "invalidate" =>
    set (({} : Completer.Cache), workspace)
    return .null
  | "get" => return cache.completions
  | "get_if_valid" => return Value.ofOption (cache.get? (← step.field "line") (← step.field "column"))
  | "valid" => return .bool (cache.isFor (← step.field "line") (← step.field "column"))
  | _ => unknownStep name

def flagsSteps : Steps Flags.Cache := fun name step => do
  match name with
  | "flags" =>
    let found ← Flags.forFile (← textField step "filename") (flagOr step "special" true)
      (fieldOr step "client_data" .null)
    return match found with
      | some flags => Value.texts flags
      | none => .null
  | "include_paths" => return Value.texts (← Flags.foldersFor (← textField step "filename"))
  | "clear" =>
    Flags.clear
    return .null
  | "write" => writeStep step
  | _ => unknownStep name

def moduleValue : Option ConfModule → Value
  | some module => .record [("module", .text module.path)]
  | none => .null

/-- A path that may be absent. -/
def pathOf : Value → Except Fault String
  | .null => .ok ""
  | value => value.asText

def confSteps : Steps Unit := fun name step => do
  match name with
  | "module_file" => return textOrNull (← Conf.pathFor (← textField step "filename"))
  | "module" => return moduleValue (← Conf.moduleFor (← textField step "filename"))
  | "load" =>
    let path ← pathOf (← step.field "file")
    return moduleValue (← Conf.load path (flagOr step "force" false))
  | "disable" =>
    Conf.disable (← textField step "file")
    return .null
  | "should_load" => return .bool (← Conf.mayRun (← textField step "file"))
  | "source_files" => return Value.texts (← Conf.candidates (← textField step "filename"))
  | "preload" =>
    Conf.beforeStart
    return .null
  | "shutdown" =>
    Conf.shutdown
    return .null
  | "reset" =>
    Conf.reset
    return .null
  | "options" =>
    let changes ← (← step.field "options").asFields
    modify fun (_, workspace) => ((), { workspace with options := Value.Fields.update workspace.options changes })
    return .null
  | "option" => Workspace.option (← textField step "key")
  | "write" => writeStep step
  | _ => unknownStep name

end Typeahead.Session

import Typeahead.Session.Surroundings
import Typeahead.Server.Route

namespace Typeahead.Session

/-! Sessions with the completion server. -/

def serverSteps : Steps Server.State := fun name step => do
  match name with
  | "request" =>
    let reply ← Server.respond (← textField step "route") (fieldOr step "json" .null) "traceback"
    return .record [("status", .int reply.status), ("body", reply.body)]
  | "defaults" =>
    Server.toDefaults Options.defaults
    return .null
  | "shutdown" =>
    Server.shutdown
    return .null
  | "usable" => return .bool (← Server.State.isUsable (← step.field "filetypes"))
  | "enabled" => return .bool (← Server.State.isEnabled (← step.field "filetypes"))
  | "use_general" => return .bool (← Server.State.shouldUseGeneral (← step.field "data"))
  | "use_filetype" => return .bool (← Server.State.shouldUseFiletype (← step.field "data"))
  | "script" => scriptStep (← textField step "name") (← step.field "value")
  | "libclang" => scriptStep name (← step.field "script")
  | "write" => writeStep step
  | _ => unknownStep name

def serverOf (workspace : Workspace) : Except Fault Server.State := Server.State.ofOptions workspace.options

end Typeahead.Session

import Typeahead.Completer.Basic
import Typeahead.Response

namespace Typeahead.Completer

/-! Names of snippets, which the editor sends along when a buffer is visited. -/

structure SnippetState where
  core : Core
  snippets : Value := .null

namespace SnippetState

abbrev Doing := Act (SnippetState × Workspace)

def shouldUse (request : Value) : Doing Bool := do isLongEnough (← get).1.core.settings.minimum request

def compute (request : Value) : Doing Value := do
  if !(← shouldUse request) then return .list []
  Ranking.rankAnswer (← get).1.snippets (← request.field "query")

def ofSnippet (snippet : Value) : Except Fault Value := do
  let trigger := (← snippet.field "trigger").display
  let description ← (← snippet.field "description").asTextFor "encode"
  return Response.completion (.text trigger) { extra := .text ("<snip> " ++ description) }

def notice (notice : Notice) (request : Value) : Doing Value := do
  if notice = .bufferVisit then
    let fields ← match request with
      | .record fields => pure fields
      | value => throw (.noFeature (Value.inQuotes value.kindName ++ " has no fields"))
    let sent ← ((Value.Fields.get? fields "ultisnips_snippets").getD (.list [])).elements
    let snippets ← (sent.mapM ofSnippet : Except Fault _)
    modify fun (state, workspace) => ({ state with snippets := .list snippets }, workspace)
  return .null

end SnippetState

def snippet : Completer SnippetState where
  core := (·.core)
  putCore core state := { state with core }
  supported := []
  applies := appliesByTrigger (·.core) []
  gather _ := return .null
  decides := some SnippetState.shouldUse
  computes := some SnippetState.compute
  notice := SnippetState.notice

end Typeahead.Completer

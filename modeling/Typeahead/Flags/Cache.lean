import Typeahead.Flags.Prepare
import Typeahead.Conf.Store

namespace Typeahead.Flags

/-! The flags of files, as their configuration files give them. Flags that may be kept are kept for the
file, in the form in which they were first asked for. -/

structure Cache where
  kept : List (String × List String) := []
  /-- That there is no configuration file is reported once. -/
  hasWarned : Bool := false

/-- Something done with kept flags in a workspace. -/
abbrev Cached := Act (Cache × Workspace)

/-- The folder of include files that the engine brings along. -/
def ownIncludes (workspace : Workspace) : List String := ["-isystem", Path.join workspace.places.native "clang_includes"]

namespace Cache

def keep (path : String) (flags : List String) (cache : Cache) : Cache := { cache with kept := Table.put path flags cache.kept }

end Cache

/-- The flags of a file, if they are known. -/
def forFile (path : String) (withOwn : Bool := true) (data : Value := .null) : Cached (Option (List String)) := do
  let (cache, _) ← get
  match cache.kept.lookup path with
  | some flags => return some flags
  | none =>
    match ← (Conf.moduleFor path : Act Workspace _) with
    | none =>
      if cache.hasWarned then return none
      modify fun (cache, workspace) => ({ cache with hasWarned := true }, workspace)
      throw .noConf
    | some module =>
      let results ← Conf.flagsFor module path data
      if !results.isPresent then return none
      let fields ← match results with
        | .record fields => pure fields
        | value => throw (.noFeature (Value.inQuotes value.kindName ++ " has no fields"))
      if !((Value.Fields.get? fields "flags_ready").getD (.bool true)).isPresent then return none
      let flags ← (← results.field "flags").elements
      if flags.isEmpty then return none
      let flags ← (flags.mapM (Value.asTextFor "startswith") : Except Fault _)
      let (_, workspace) ← get
      let flags := if withOwn then flags ++ ownIncludes workspace else flags
      let ready ← prepare workspace.real flags path
      if (← results.field "do_cache").isPresent then
        modify fun (cache, workspace) => (cache.keep path ready, workspace)
      return some ready

/-- The folders for include files that the flags of a file name. -/
def foldersFor (path : String) : Cached (List String) := do
  return ((← forFile path false).map includeFolders).getD []

def clear : Cached Unit := modify fun (cache, workspace) => ({ cache with kept := [] }, workspace)

end Typeahead.Flags

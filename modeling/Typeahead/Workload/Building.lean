import Typeahead.Workload.Basic
import Typeahead.Flags.Own
import Typeahead.Flags.Prepare
import Typeahead.Conf.Store

namespace Typeahead.Workload

/-! How files are built: their flags, and the configuration files they come from. -/

/-- The flags of a compilation, with what an analysis has no use for. -/
def compilerLine (path : String) : List String :=
  ["clang++", "-c", path, "-o", path ++ ".o", "-MMD"] ++
  (List.range 19).map (fun number => "-DPART_" ++ toString number) ++
  (List.range 9).flatMap fun number => ["-I", "/include/part_" ++ toString number]

def sourcePath (index : Nat) : String := "/work/source_" ++ toString index ++ ".cpp"

/-- Flags made ready for the analysis of files. -/
def preparedFlags : Workload := fun size => return do
  let found ← total size fun index => do
    let path := sourcePath index
    let flags ← Flags.prepare (← get).real (compilerLine path) path
    return flags.length
  return .int found

/-- A folder for the files of a workload. -/
def workFolder : Act Workspace String := do
  let folder := Path.join (← get).places.temporary "workload"
  modify fun workspace => { workspace with files := workspace.files.makeFolder folder }
  return folder

/-- The configuration files that lie around files. -/
def confSearch : Workload := fun size => do
  let folder ← workFolder
  let conf := Path.join folder Conf.fileName
  let paths := (List.range size).map fun index => Path.joinAll folder ["a", "b", "file_" ++ toString index ++ ".cpp"]
  Workspace.write conf (.conf { result := fun _ _ => .record [("flags", .list [])] }) none
  for path in paths do
    Workspace.write path (.text "") none
  modify fun workspace => { workspace with options := Value.Fields.set workspace.options "confirm_extra_conf" (.int 0) }
  return do
    let found ← total size fun index => do
      let path ← Value.nth paths index
      let isMatched := Conf.matchesPattern (← get) path (Path.join folder "*")
      let chosen ← Conf.pathFor path
      return (Path.enclosing path).length + (Path.components path).length + isMatched.toNat +
        (Path.name (chosen.getD "")).length
    let first ← Conf.pathFor (← Value.nth paths 0)
    return .list [.int found, .bool (first == some conf)]

/-- The flags of sources and headers in turn, from a database of compilations. -/
def confFlags : Workload := fun size => do
  let names := (List.range size).map fun index => "/work/unit_" ++ toString index
  let flags (count : Nat) : List String := "-stdlib=libc++" :: (List.range count).map fun number => "-W" ++ toString number
  let compilations : Flags.Compilations := names.zipIdx.map fun (name, index) =>
    (name ++ ".cpp", { flags := flags (if index % 2 == 0 then 15 else 12), folder := "/work" })
  for name in names do
    Workspace.write (name ++ ".cpp") (.text "") none
  let flagsOf (answer : Value) : Except Fault Nat := do (← answer.field "flags").size
  return do
    let found ← total size fun index => do
      let name ← Value.nth names index
      let path := name ++ (if index % 2 == 0 then ".cpp" else ".h")
      let answer ← Flags.ownFor "/work" (some compilations) path
      flagsOf answer
    let first ← Value.nth names 0
    let plain ← Flags.ownFor "/work" none (first ++ ".cpp")
    return .list [.int found, .int (← flagsOf plain), ← plain.field "do_cache"]

end Typeahead.Workload

import Typeahead.Flags.Project
import Typeahead.Workspace

namespace Typeahead.Flags

/-! The configuration of the native engine's own sources: a fixed list of flags, or those that a database
of compilations has for the file or, for a header, for a source file beside it. -/

/-- How one file is compiled. -/
structure Compilation where
  flags : List String := []
  folder : String := ""

abbrev Compilations := List (String × Compilation)

def own : List String :=
  ["-Wall", "-Wextra", "-Werror", "-Wc++98-compat", "-Wno-long-long", "-Wno-variadic-macros", "-fexceptions",
   "-DNDEBUG", "-DUSE_CLANG_COMPLETER", "-std=c++11", "-x", "c++", "-isystem", "../BoostParts", "-isystem",
   "/System/Library/Frameworks/Python.framework/Headers", "-isystem", "../llvm/include", "-isystem",
   "../llvm/tools/clang/include", "-I", ".", "-I", "./ClangCompleter", "-isystem", "./tests/gmock/gtest",
   "-isystem", "./tests/gmock/gtest/include", "-isystem", "./tests/gmock", "-isystem", "./tests/gmock/include",
   "-isystem", "/usr/include", "-isystem", "/usr/local/include", "-isystem",
   "/Applications/Xcode.app/Contents/Developer/Toolchains/XcodeDefault.xctoolchain/usr/bin/../lib/c++/v1",
   "-isystem", "/Applications/Xcode.app/Contents/Developer/Toolchains/XcodeDefault.xctoolchain/usr/include"]

/-- Looks a file up; a file that is not listed has no flags. -/
def lookUp (compilations : Compilations) (path : String) : Act Workspace Compilation := do
  Workspace.record (.database path)
  return (compilations.lookup path).getD {}

/-- The first of the files that exists and has flags. -/
def firstCompiled (compilations : Compilations) : List String → Act Workspace (Option Compilation)
  | [] => return none
  | path :: rest => do
    if (← get).has path then
      let found ← lookUp compilations path
      if found.flags.isEmpty then firstCompiled compilations rest else return some found
    else firstCompiled compilations rest

def compilation (compilations : Compilations) (path : String) : Act Workspace (Option Compilation) := do
  if isHeader path then
    let base := (Path.splitExtension path).1
    firstCompiled compilations (sourceExtensions.map (base ++ ·))
  else return some (← lookUp compilations path)

/-- The flags for a file of a project that lies in a folder. -/
def ownFor (folder : String) (compilations : Option Compilations) (path : String) : Act Workspace Value := do
  let flags ← match compilations with
    | none => pure (some (relocate own folder))
    | some compilations => do
      let found ← compilation compilations path
      pure (found.map fun found => (relocate found.flags found.folder).erase "-stdlib=libc++")
  return match flags with
    | some flags => .record [("flags", Value.texts flags), ("do_cache", .bool true)]
    | none => .null

end Typeahead.Flags

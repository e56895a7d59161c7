import Typeahead.Frontend.Store
import Typeahead.Workspace

namespace Typeahead.Frontend

/-! The engine for languages of the C family. It keeps the translation units of files and asks the front
end for completions, diagnostics and places of symbols. -/

/-- Contents of files that have not been saved. -/
abbrev Unsaved := List (String × String)

abbrev Engine := UnitStore UInt64

abbrev Doing := Act (Engine × Workspace)

def current : Act Workspace Frontend := do return (← get).frontend.getD {}

def unsavedTexts (unsaved : Unsaved) : List String := unsaved.flatMap fun (name, contents) => [name, contents]

/-- The options for files that are being edited: preprocessing in detail, a precompiled preamble and kept
completions. -/
def editingOptions : Nat := 13

/-- The options for finding symbols: a precompiled preamble, and function bodies are skipped. -/
def indexingOptions : Nat := 68

def completionOptions : Nat := 1

/-- A number as the front end takes it, without a sign. -/
def unsigned (number : Int) : Int := number % 4294967296

/-- Lets the front end try something; whether that succeeds. -/
def attempting (attempt : Frontend → Bool × Frontend) : Act Workspace Bool := do
  let (succeeds, frontend) := attempt (← current)
  modify fun workspace => { workspace with frontend := workspace.frontend.map fun _ => frontend }
  return succeeds

/-- Has a file parsed; whether that succeeds. -/
def parse (path : String) (flags : List String) (unsaved : Unsaved) : Act Workspace Bool := do
  Workspace.record (.frontend (["parse", path, toString editingOptions, toString flags.length] ++ flags ++
    unsavedTexts unsaved))
  attempting attemptParse

def reparse (options : Nat) (unsaved : Unsaved) : Act Workspace Bool := do
  Workspace.record (.frontend (["reparse", toString options] ++ unsavedTexts unsaved))
  attempting attemptReparse

namespace TranslationUnit

/-- Parses a file. The second pass is what makes a precompiled preamble. -/
def create (path : String) (flags : List String) (unsaved : Unsaved) : Act Workspace (Option TranslationUnit) := do
  if !(← parse path flags unsaved) then return none
  if !(← reparse editingOptions unsaved) then return none
  return some { path, flags, isLive := true, diagnostics := (← current).diagnostics }

/-- Parses the file of a live unit again, and tells whether that worked; a failure ends the unit. -/
def reparse (unit : TranslationUnit) (options : Nat) (unsaved : Unsaved) : Act Workspace (TranslationUnit × Bool) := do
  if !unit.isLive then return (unit, true)
  if ← Frontend.reparse options unsaved then
    return ({ unit with diagnostics := (← current).diagnostics }, true)
  else return ({ unit with isLive := false }, false)

/-- Parses the file again for a lookup, where that is asked for. -/
def refresh (unit : TranslationUnit) (unsaved : Unsaved) (parseAgain : Bool) :
    Act Workspace (TranslationUnit × Bool) :=
  if parseAgain then unit.reparse indexingOptions unsaved else return (unit, true)

end TranslationUnit

namespace Engine

def store : Doing Engine := do return (← get).1

def changeStore (change : Engine → Engine) : Doing Unit :=
  modify fun (store, workspace) => (change store, workspace)

/-- The unit of a file with these flags, and whether it was made just now. -/
def getOrCreate (path : String) (flags : List String) (unsaved : Unsaved) :
    Doing (Option TranslationUnit × Bool) := do
  let (found, entered) := (← store).enter path (flagsHash flags)
  changeStore fun _ => entered
  match found with
  | some unit => return (some unit, false)
  | none =>
    let made ← TranslationUnit.create path flags unsaved
    changeStore (·.finish path made)
    return (made, made.isSome)

def isUpdating (path : String) : Doing Bool := do
  return (((← store).get? path).map TranslationUnit.isUpdating).getD false

/-- Parses a file anew and gives what was found wrong in it. -/
def update (path : String) (flags : List String) (unsaved : Unsaved) : Doing (List Diagnostic) := do
  let (found, isNew) ← getOrCreate path flags unsaved
  match found with
  | none => return []
  | some unit =>
    if isNew then return unit.latestDiagnostics
    let (unit, worked) ← unit.reparse editingOptions unsaved
    if worked then
      changeStore (·.put path unit)
      return unit.diagnostics
    else
      changeStore (·.remove path)
      return []

def completions (path : String) (line column : Int) (flags : List String) (unsaved : Unsaved) :
    Doing (List Completion) := do
  let (found, _) ← getOrCreate path flags unsaved
  match found with
  | none => return []
  | some unit =>
    if !unit.isLive then return []
    Workspace.record (.frontend (["complete", unit.path, toString (unsigned line), toString (unsigned column),
      toString completionOptions] ++ unsavedTexts unsaved))
    return (← current).completions

/-- The place that the symbol at a position leads to, by one of its references. -/
def follow (reference : Symbol → Int) (path : String) (line column : Int) (flags : List String) (unsaved : Unsaved)
    (parseAgain : Bool) : Doing Location := do
  let (found, _) ← getOrCreate path flags unsaved
  match found with
  | none => return {}
  | some unit =>
    let (unit, worked) ← unit.refresh unsaved parseAgain
    changeStore (·.put path unit)
    if !worked then throw (.failed "std::exception")
    if !unit.isLive then return {}
    let frontend ← current
    return (do
      let symbol ← frontend.symbolAt? (unsigned line) (unsigned column)
      let target ← frontend.symbol? (reference symbol)
      return target.location : Option Location).getD {}

def declaration : String → Int → Int → List String → Unsaved → Bool → Doing Location := follow (·.referenced)

def definition : String → Int → Int → List String → Unsaved → Bool → Doing Location := follow (·.definition)

def delete (path : String) : Doing Unit := changeStore (·.remove path)

end Engine

end Typeahead.Frontend

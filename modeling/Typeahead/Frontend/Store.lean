import Typeahead.Frontend.Basic
import Typeahead.Table
import Typeahead.Letter

namespace Typeahead.Frontend

/-! The translation units of files, each with a key for the flags it was parsed with. Making a unit takes
three steps, between which others may use the store: a placeholder is entered, the file is parsed, and the
unit is put in place of the placeholder. -/

/-- A parsed file. One that is not live is a placeholder, or was given up after a failure. -/
structure TranslationUnit where
  path : String := ""
  flags : List String := []
  isLive : Bool := false
  diagnostics : List Diagnostic := []

namespace TranslationUnit

def placeholder : TranslationUnit := {}

/-- A unit that cannot be used counts as being updated. -/
def isUpdating (unit : TranslationUnit) : Bool := !unit.isLive

def latestDiagnostics (unit : TranslationUnit) : List Diagnostic := if unit.isLive then unit.diagnostics else []

end TranslationUnit

structure UnitStore (κ : Type) where
  units : List (String × TranslationUnit) := []
  keys : List (String × κ) := []

namespace UnitStore

variable {κ : Type} [BEq κ] [Inhabited κ]

def get? (store : UnitStore κ) (path : String) : Option TranslationUnit := store.units.lookup path

def remove (store : UnitStore κ) (path : String) : UnitStore κ :=
  { units := Table.erase path store.units, keys := Table.erase path store.keys }

def removeAll (_store : UnitStore κ) : UnitStore κ := {}

/-- Puts a unit in place; the key stays as it is. -/
def put (store : UnitStore κ) (path : String) (unit : TranslationUnit) : UnitStore κ :=
  { store with units := Table.put path unit store.units }

/-- Marks a file as being parsed with flags of a key. -/
def mark (store : UnitStore κ) (path : String) (key : κ) : UnitStore κ :=
  { units := Table.put path .placeholder store.units, keys := Table.put path key store.keys }

/-- Reads the key of a file; one that has none gets the default key. -/
def readKey (store : UnitStore κ) (path : String) : κ × UnitStore κ :=
  match store.keys.lookup path with
  | some key => (key, store)
  | none => (default, { store with keys := Table.put path default store.keys })

/-- The first step: the unit of the file if its key is this one, or else a placeholder is entered. -/
def enter (store : UnitStore κ) (path : String) (key : κ) : Option TranslationUnit × UnitStore κ :=
  match store.get? path with
  | none => (none, store.mark path key)
  | some unit =>
    let (known, store) := store.readKey path
    if known == key then (some unit, store) else (none, store.mark path key)

/-- The last step: the new unit is put in place, or nothing is left of a failure. -/
def finish (store : UnitStore κ) (path : String) (made : Option TranslationUnit) : UnitStore κ :=
  match made with
  | some unit => store.put path unit
  | none => store.remove path

end UnitStore

/-- Mixes a number into a hash. -/
def mix (seed value : UInt64) : UInt64 := seed ^^^ (value + 0x9e3779b9 + seed <<< (6 : UInt64) + seed >>> (2 : UInt64))

def textHash (text : Bytes) : UInt64 :=
  text.foldl (fun seed letter => mix seed (UInt64.ofInt (Letter.signed letter))) 0

/-- The key of flags. -/
def flagsHash (flags : List String) : UInt64 :=
  flags.foldl (fun seed flag => mix seed (textHash (Bytes.ofString flag))) 0

end Typeahead.Frontend

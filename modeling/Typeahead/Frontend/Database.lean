import Typeahead.Frontend.Basic
import Typeahead.Flags.Own

namespace Typeahead.Frontend

/-! Databases of compilations. Of several commands for a file the first counts; a file without one, or a
database that could not be loaded, has no flags. -/

structure Database where
  folder : String
  isLoaded : Bool

namespace Database

def load (frontend : Frontend) (folder : String) : Database :=
  { folder, isLoaded := (frontend.databases.lookup folder).isSome }

def compilation (database : Database) (frontend : Frontend) (path : String) : Flags.Compilation :=
  if !database.isLoaded then {}
  else match frontend.command? database.folder path with
    | some command => { flags := command.arguments, folder := command.folder }
    | none => {}

end Database

end Typeahead.Frontend

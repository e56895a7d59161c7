import Typeahead.Workspace

namespace Typeahead.Path

/-! Solution files: those in the nearest folder around a file that has any. -/

/-- The names of the solution files in a folder; hidden ones do not count. -/
def solutionsIn (workspace : Workspace) (folder : String) : List String :=
  let names := (workspace.names? (if folder.isEmpty then "." else folder)).getD []
  names.filter fun name => Text.endsWith name ".sln" && !Text.startsWith name "."

/-- The solution files in a folder or in the nearest one around it, and that folder. The way upwards ends with the
folder that is its own. -/
def solutionsFrom (workspace : Workspace) (place : String) : List String × String :=
  let found := solutionsIn workspace place
  if !found.isEmpty then (found, place)
  else if ends : folder place = place then (found, place)
  else
    have := length_folder_lt ends
    solutionsFrom workspace (folder place)
termination_by place.length

def solutionsFor (workspace : Workspace) (path : String) : List String × String :=
  solutionsFrom workspace (folder path)

end Typeahead.Path

import Typeahead.Identifier.Repository
import Typeahead.Identifier.Scan
import Typeahead.Identifier.Tags
import Typeahead.Ranking
import Typeahead.Table
import Typeahead.Workspace

namespace Typeahead.Identifier

/-! The identifiers known of each file, by filetype. A filetype's table lists its files in the order in
which they were first seen, a file its candidates without repetition. -/

abbrev FileTable := List (Bytes × List Nat)

structure Database where
  repository : Repository := .empty
  tables : List (Bytes × FileTable) := []

namespace Database

/-- Lists a candidate behind others unless it is among them. -/
def insertNew (candidates : List Nat) (candidate : Nat) : List Nat :=
  if candidates.contains candidate then candidates else candidates ++ [candidate]

/-- Applies a change to the candidates of one file, which is there afterwards. -/
def onFile (database : Database) (source : Source) (change : List Nat → List Nat) : Database :=
  { database with
    tables := Table.alter source.filetype (fun table =>
      Table.alter source.path (fun candidates => change (candidates.getD [])) (table.getD [])) database.tables }

def add (database : Database) (source : Source) (texts : List Bytes) : Database :=
  let (candidates, repository) := database.repository.internAll texts
  { database.onFile source (candidates.foldl insertNew ·) with repository }

def clear (database : Database) (source : Source) : Database := database.onFile source fun _ => []

/-- Puts the identifiers of a buffer in the place of those that its file had. Where the search for comments and
quoted texts is given up, those are gone all the same. -/
def addBuffer (givesUp : Bytes → Bool) (source : Source) (contents : Bytes) (fromIgnored : Bool) :
    Act Database Unit := do
  modify (·.clear source)
  let texts ← ofBuffer givesUp fromIgnored contents
  modify (·.add source texts)

def addTags (database : Database) (tagsPath contents : Bytes) : Database :=
  (ofTags tagsPath contents).foldl (fun database (source, text) => database.add source [text]) database

/-- The files of a filetype. -/
def files (database : Database) (filetype : Bytes) : FileTable := (database.tables.lookup filetype).getD []

/-- The candidates of some files, each where it is first seen. -/
def candidates (table : FileTable) : List Nat :=
  table.foldl (fun seen (_, candidates) => candidates.foldl insertNew seen) []

/-- The texts known under a filetype. -/
def texts (database : Database) (filetype : Bytes) : List Bytes :=
  (candidates (database.files filetype)).filterMap database.repository.text?

/-- The identifiers of a filetype that match a query, best first. -/
def query (database : Database) (query filetype : Bytes) : Except Fault (List Bytes) :=
  if (database.tables.lookup filetype).isNone || query.isEmpty then .ok []
  else Ranking.rank query id (database.texts filetype)

end Database

end Typeahead.Identifier

import Typeahead.Frontend.Completion
import Typeahead.Frontend.Diagnostic

namespace Typeahead

namespace Frontend

/-! A compiler front end, as far as it can be asked: what it answers for a file, and whether it fails. -/

/-- A symbol at a place of a file. References to other symbols are positions in the list of all. -/
structure Symbol where
  line : Int
  column : Int
  location : Location := {}
  kind : Int := 1
  referenced : Int := -1
  definition : Int := -1

/-- Whether there is a symbol behind a kind. -/
def Symbol.isValid (symbol : Symbol) : Bool := !(70 ≤ symbol.kind && symbol.kind ≤ 73)

/-- How one file is compiled. -/
structure Command where
  folder : String := ""
  arguments : List String := []

end Frontend

structure Frontend where
  parseFails : Bool := false
  reparseFails : Bool := false
  /-- How the next attempts to parse turn out, the first or a further time. When they are used up, the fields
  above tell. -/
  outcomes : List Bool := []
  /-- There is no list of completions at all. -/
  hasNoResults : Bool := false
  offers : List Frontend.Offer := []
  findings : List Frontend.Finding := []
  tokens : List Frontend.Token := []
  symbols : List Frontend.Symbol := []
  databases : List (String × List (String × List Frontend.Command)) := []

namespace Frontend

/-- Whether an attempt succeeds, and the front end after it. -/
def attempt (frontend : Frontend) (fails : Bool) : Bool × Frontend :=
  match frontend.outcomes with
  | [] => (!fails, frontend)
  | succeeds :: later => (succeeds, { frontend with outcomes := later })

def attemptParse (frontend : Frontend) : Bool × Frontend := frontend.attempt frontend.parseFails

def attemptReparse (frontend : Frontend) : Bool × Frontend := frontend.attempt frontend.reparseFails

def symbolAt? (frontend : Frontend) (line column : Int) : Option Symbol :=
  (frontend.symbols.find? fun symbol => symbol.line == line && symbol.column == column).filter Symbol.isValid

def symbol? (frontend : Frontend) (index : Int) : Option Symbol :=
  if 0 ≤ index then (frontend.symbols[index.toNat]?).filter Symbol.isValid else none

def completions (frontend : Frontend) : List Completion :=
  if frontend.hasNoResults then [] else Completion.ofOffers frontend.offers

def diagnostics (frontend : Frontend) : List Diagnostic := Diagnostic.ofFindings frontend.tokens frontend.findings

/-- The first command of a file in a database; none if there is no such database. -/
def command? (frontend : Frontend) (folder path : String) : Option Command :=
  ((frontend.databases.lookup folder).bind (·.lookup path)).bind (·.head?)

end Frontend

end Typeahead

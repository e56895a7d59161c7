import Typeahead.Value.Access
import Typeahead.Text.Column
import Typeahead.Path
import Typeahead.Text.Alphanumeric

namespace Typeahead.Survey

/-! Which lines a run of all workloads reached, and the table that shows it. -/

structure FileCoverage where
  /-- The file, as seen from the project's folder. -/
  name : String
  statements : Int
  missing : Int
  percent : Float
  missingLines : List Value

structure Coverage where
  /-- The share of all statements, as it was given. -/
  percent : Value
  share : Float
  covered : Int
  statements : Int
  /-- What went wrong in the workloads, by name. -/
  failures : Value.Fields
  files : List FileCoverage

namespace Coverage

def fileOf (folder : String) (entry : String × Value) : Except Fault FileCoverage := do
  let (path, data) := entry
  let summary ← data.field "summary"
  return {
    name := if Path.isAbsolute path then Path.relative folder path else path
    statements := ← (← summary.field "num_statements").asInt
    missing := ← (← summary.field "missing_lines").asInt
    percent := ← (← summary.field "percent_covered").asFloat
    missingLines := ← (← data.field "missing_lines").elements }

/-- Reads a coverage record of the project in a folder. What went wrong is under a key of its own. -/
def ofValue (folder failuresKey : String) (value : Value) : Except Fault Coverage := do
  let totals ← value.field "totals"
  let percent ← totals.field "percent_covered"
  let failures := ((value.field? "meta").bind (·.field? failuresKey)).getD (.record [])
  return {
    percent
    share := ← percent.asFloat
    covered := ← (← totals.field "covered_lines").asInt
    statements := ← (← totals.field "num_statements").asInt
    failures := ← failures.asFields
    files := ← (← (← value.field "files").asFields).mapM (fileOf folder) }

/-- The least covered files come first, and of these the largest. -/
def precedes (left right : FileCoverage) : Bool :=
  left.percent < right.percent || (left.percent == right.percent && right.statements ≤ left.statements)

def sorted (files : List FileCoverage) : List FileCoverage := files.mergeSort precedes

/-- At most this many missing lines of a file are shown. -/
def shownLines : Nat := 12

def missingText (lines : List Value) : String :=
  Text.join "," ((lines.take shownLines).map Value.display) ++ (if shownLines < lines.length then "…" else "")

def nameWidth (files : List FileCoverage) : Nat := files.foldl (fun width file => max width file.name.length) 4

def row (width : Nat) (name statements missing cover : String) : String :=
  Text.flushLeft width name ++ "  " ++ Text.flushRight 5 statements ++ "  " ++ Text.flushRight 4 missing ++ "  " ++
  Text.flushRight 5 cover

def percentText (share : Float) : String := Decimal.fixed 0 share ++ "%"

/-- The lines of the table. -/
def table (coverage : Coverage) : List String :=
  let files := sorted coverage.files
  let width := nameWidth files
  let rule := String.ofList (List.replicate (width + 42) '-')
  let fileRow (file : FileCoverage) : String :=
    row width file.name (toString file.statements) (toString file.missing) (percentText file.percent) ++ "  " ++
    missingText file.missingLines
  [row width "Name" "Stmts" "Miss" "Cover" ++ "  Missing", rule] ++ files.map fileRow ++
  [rule, row width "TOTAL" (toString coverage.statements) (toString (coverage.statements - coverage.covered))
    (percentText coverage.share)]

/-- At most this many failures are shown. -/
def shownFailures : Nat := 8

def failureLines (coverage : Coverage) : List String :=
  if coverage.failures.isEmpty then []
  else ["", toString coverage.failures.length ++ " bench error(s):"] ++
    (coverage.failures.take shownFailures).map fun (name, failure) => "  " ++ name ++ ": " ++ failure.display

end Coverage

/-- Whether a line starts the definition of a workload. -/
def isWorkloadLine (line : List Char) : Bool :=
  let opening := "def bench_".toList
  let rest := line.drop opening.length
  let name := rest.takeWhile Text.isIdentifierChar
  opening.isPrefixOf line && !name.isEmpty &&
    ((rest.drop name.length).dropWhile Text.isSpace).head? == some '('

def countWorkloads (source : String) : Nat := ((Text.split '\n' source).map String.toList).countP isWorkloadLine

end Typeahead.Survey

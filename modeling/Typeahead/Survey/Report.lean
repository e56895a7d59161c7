import Typeahead.Survey.Coverage
import Typeahead.Survey.Share
import Typeahead.Survey.Verdict
import Typeahead.Value.Read
import Typeahead.Workspace

namespace Typeahead.Survey

/-! A survey of all workloads: it starts the measuring tools, prints a report, and keeps one line for each
round, by which it sees when further rounds bring nothing. -/

/-- How a tool ends. -/
structure Outcome where
  code : Int := 0
  output : String := ""
  errors : String := ""

structure Setup where
  /-- Where the project lies, and the name of that folder in the tools' records. -/
  folder : String
  shownFolder : String
  /-- The tools, by the names under which they are started. -/
  coverageTool : String
  shareTool : String
  checkTool : String
  versionTool : String
  /-- The files in the project's folder: the workloads, the coverage record and the rounds. -/
  workloads : String
  coverageRecord : String
  rounds : String
  /-- How the names of files start that the survey itself leaves in the folder. -/
  ownStarts : List String
  /-- The key under which the coverage record has what went wrong. -/
  failuresKey : String
  /-- How each tool ends, or why it cannot be started. -/
  outcomes : List (String × Except String Outcome) := []
  /-- What the clock shows, one time after the other, and the time of day. -/
  clock : List Value
  now : Value

/-- What is printed, and with which code the survey ends itself. -/
structure Report where
  output : String := ""
  errors : String := ""
  exit : Option Int := none

abbrev Surveying := Act (Report × Workspace)

namespace Setup

def path (setup : Setup) (name : String) : String := Path.join setup.folder name

def tick (setup : Setup) (count : Nat) : Except Fault Value :=
  match setup.clock[count]? with
  | some time => .ok time
  | none => .error .clockStopped

end Setup

namespace Surveying

def print (line : String) : Surveying Unit :=
  modify fun (report, workspace) => ({ report with output := report.output ++ line ++ "\n" }, workspace)

def complain (text : String) : Surveying Unit :=
  modify fun (report, workspace) => ({ report with errors := report.errors ++ text }, workspace)

/-- Starts a tool and waits for its end. -/
def start (setup : Setup) (tool : String) : Surveying Outcome := do
  (Workspace.record (.run tool) : Act Workspace Unit)
  match setup.outcomes.lookup tool with
  | none => return {}
  | some (.ok outcome) => return outcome
  | some (.error reason) => throw (.failed reason)

def textOf (path : String) : Surveying String := do
  match (← get).2.contents? path with
  | some text => return text
  | none => throw (.noFile path)

def readable (text : String) : Except Fault Value :=
  match Value.read? text with
  | some value => .ok value
  | none => .error .notReadable

/-- The last line that a tool prints, as a value; an empty record if it prints nothing. -/
def lastLine (output : String) : Except Fault Value :=
  match (Text.lines (Text.strip output)).getLast? with
  | some line => readable line
  | none => .ok (.record [])

/-- Runs a tool, if it is there, and takes its last line for what `read` makes of it. Any failure is only
reported. -/
def consult {α : Type} (setup : Setup) (tool label : String) (otherwise : α)
    (read : Value → Except Fault α) : Surveying α := do
  if !(← get).2.has (setup.path tool) then return otherwise
  tryCatch (do
    let outcome ← start setup tool
    complain outcome.errors
    let read ← read (← lastLine outcome.output)
    return read) fun fault => do
      complain ("[" ++ label ++ " runner: " ++ fault.name ++ "]\n")
      return otherwise

end Surveying

/-- Whether a line of the version tool tells of a change to a file of the project proper. -/
def tellsOfChange (setup : Setup) (line : String) : Bool :=
  match (Text.words line).getLast? with
  | none => false
  | some path =>
    let name := Path.name path
    !Text.startsWith line "??" && name != setup.workloads && !setup.ownStarts.any (Text.startsWith name)

/-! ### Rounds -/

/-- A number with so many places at most; a whole number stays as it is. -/
def rounded (places : Nat) (number : Value) : Value :=
  match number with
  | .float number => match Value.read? (Decimal.fixed places number) with
    | some (.int whole) => .float (Float.ofInt whole)
    | some value => value
    | none => .float number
  | number => number

/-- Rounds count for convergence from this coverage on. -/
def enough : Float := 60

/-- After so many rounds without a better one the survey is done. -/
def patience : Nat := 3

/-- How many workloads were too low in a round that counts. -/
def lowOf? (line : Value) : Option Int :=
  match line.field? "n_below_repo_time", (line.field? "coverage_pct").map Value.asFloat with
  | some (.int low), some (.ok share) => if enough ≤ share then some low else none
  | _, _ => none

/-- The smallest number with the count of those that follow its first place. -/
def best? (numbers : List Int) : Option (Int × Nat) :=
  match numbers.min? with
  | none => none
  | some best => some (best, numbers.length - 1 - numbers.idxOf best)

/-- Why no further round is needed, if so. -/
def reasonToStop (earlier : List Int) (low : Int) : Option String :=
  if low == 0 then some "0 below"
  else match best? (earlier ++ [low]) with
    | some (best, since) =>
      if patience ≤ since then
        some ("no improvement in " ++ toString since ++ " rounds; best " ++ toString best ++ " below")
      else none
    | none => none

def stopLine (setup : Setup) (reason : String) : String :=
  ">>> STOP: repo_time converged (" ++ reason ++ "). Finalize " ++ setup.workloads ++ " now. <<<"

/-- The time since the last round, zero if that is not known. -/
def timeSince (last? : Option Value) (now : Value) : Except Fault Value :=
  match last? with
  | none => .ok (.float 0)
  | some last => do
    let time := ((← last.asFieldsFor "get").lookup "ts").getD .null
    if time.isPresent then return rounded 2 (← now.minus time) else return .float 0

/-! ### The survey -/

/-- Runs a survey. -/
def survey (setup : Setup) : Surveying Unit := do
  let begun ← setup.tick 0
  let outcome ← Surveying.start setup setup.coverageTool
  let duration ← (← setup.tick 1).minus begun
  if outcome.code != 0 then
    Surveying.print ("coverage measurement failed (exit " ++ toString outcome.code ++ ")")
    Surveying.print outcome.output
    Surveying.complain outcome.errors
    modify fun (report, workspace) => ({ report with exit := some outcome.code }, workspace)
    return
  let record ← Surveying.readable (← Surveying.textOf (setup.path setup.coverageRecord))
  let coverage ← Coverage.ofValue setup.shownFolder setup.failuresKey record
  let count := countWorkloads (((← get).2.contents? (setup.path setup.workloads)).getD "")
  let shares ← Surveying.consult setup setup.shareTool "repotime" {} Shares.ofValue
  let judgements ← judge
  (coverage.table ++ coverage.failureLines ++ shares.lines ++ Judgement.lines judgements).forM Surveying.print
  let before := (Text.lines (((← get).2.contents? (setup.path setup.rounds)).getD "")).filter
    fun line => !(Text.strip line).isEmpty
  let number := before.length + 1
  tryCatch (keep before number duration coverage count shares judgements) fun _ => pure ()
  Surveying.print ""
  Surveying.print ("[round " ++ toString number ++ ": " ++ Text.join ", "
    ([toString count ++ " benches", Decimal.fixed 1 coverage.share ++ "% covered"] ++ shares.notes ++
     Judgement.notes judgements ++ ["measured in " ++ Decimal.fixed 1 (← duration.asFloat) ++ "s"]) ++ "]")
  match shares.low? with
  | none => return
  | some low =>
    if enough ≤ coverage.share then
      match reasonToStop (before.filterMap fun line => (Value.read? line).bind lowOf?) low with
      | some reason =>
        Surveying.print ""
        Surveying.print (stopLine setup reason)
      | none => return
where
  judge : Surveying (List Judgement) := do
    let isTampered ← if (← get).2.has (setup.path setup.checkTool) then
        tryCatch (do
          let outcome ← Surveying.start setup setup.versionTool
          return (Text.lines outcome.output).any (tellsOfChange setup)) fun _ => return false
      else pure false
    Surveying.consult setup setup.checkTool "semcheck" [] (Judgement.allOf isTampered)
  keep (before : List String) (number : Nat) (duration : Value) (coverage : Coverage) (count : Nat) (shares : Shares)
      (judgements : List Judgement) : Surveying Unit := do
    let last? ← (before.getLast?.mapM Surveying.readable : Except Fault _)
    let waited ← timeSince last? setup.now
    let round := Value.record
      [("round", .int number), ("ts", setup.now), ("wall_since_prev_s", waited), ("coverage_pct", coverage.percent),
       ("covered_lines", .int coverage.covered), ("num_statements", .int coverage.statements),
       ("n_bench_fns", .int count), ("n_bench_errors", .int coverage.failures.length),
       ("cov_measure_s", rounded 3 duration), ("repo_time_pct", shares.toValue),
       ("n_below_repo_time", Value.ofOption (shares.low?.map fun low => .int low)),
       ("semcheck", Judgement.toValue judgements), ("n_not_self_checking", .int (Judgement.unfit judgements))]
    let path := setup.path setup.rounds
    let text := ((← get).2.contents? path).getD ""
    (Workspace.write path (.text (text ++ round.exchange ++ "\n")) none : Act Workspace Unit)

/-- Runs a survey in a workspace, for its report and the whole text of the kept rounds. -/
def run (setup : Setup) : Act Workspace (Report × Option String) := fun workspace =>
  let (result, report, workspace) := (survey setup).run (({}, workspace) : Report × Workspace)
  (result.map fun _ => (report, workspace.contents? (setup.path setup.rounds)), workspace)

end Typeahead.Survey

import Typeahead.Value.Access
import Typeahead.Text.Column

namespace Typeahead.Survey

/-! Whether the answer of a workload shows that its work was done. -/

/-- What was seen when a workload ran several times. -/
structure Observation where
  /-- The kind of its answer, in angle brackets if it failed. -/
  kind : Option String := none
  /-- Prints of the answers to the same question. -/
  repeated : List String := []
  /-- Prints of the answers to different questions. -/
  varied : List String := []
  /-- Prints of the questions. -/
  questions : List String := []
  /-- How long the project's own code took, in milliseconds, and which share of the time that was. -/
  times : List Float := []
  shares : List Float := []

namespace Observation

def textsOf (value : Option Value) : Except Fault (List String) :=
  match value with
  | none | some .null => .ok []
  | some value => do return (← value.elements).map Value.display

def valuesOf (value : Option Value) : Except Fault (List Value) :=
  match value with
  | none | some .null => .ok []
  | some value => do return (← value.asFields).map (·.2)

def ofFields (fields : Value.Fields) : Except Fault Observation := do
  return {
    kind := match fields.lookup "ret_type" with
      | some (.text kind) => some kind
      | _ => none
    repeated := ← textsOf (fields.lookup "fp_stable")
    varied := (← valuesOf (fields.lookup "fp_by_param")).map Value.display
    questions := ← textsOf (fields.lookup "param_fps")
    times := ← (← valuesOf (fields.lookup "repo_tt_ms")).mapM Value.asFloat
    shares := ← (← valuesOf (fields.lookup "repo_frac")).mapM Value.asFloat }

/-- The mean of some numbers, zero if there are none. -/
def mean (numbers : List Float) : Float :=
  if numbers.isEmpty then 0 else numbers.foldl (· + ·) 0 / Float.ofNat numbers.length

end Observation

inductive Verdict where
  | ok
  /-- It asks only one question, so its answers cannot be told apart. -/
  | unvaried
  | failed
  | givesNothing
  | unstable
  | givesQuestion
  | lowShare
  | tooFast
  | unmoved
  /-- The project's files have been changed. -/
  | tampered
  deriving DecidableEq, Repr

namespace Verdict

def text : Verdict → String
  | .ok => "ok"
  | .unvaried => "ok-unparam"
  | .failed => "error"
  | .givesNothing => "returns-none"
  | .unstable => "unstable"
  | .givesQuestion => "returns-input"
  | .lowShare => "low-repo-time"
  | .tooFast => "too-fast"
  | .unmoved => "param-invariant"
  | .tampered => "repo-modified"

def isFine : Verdict → Bool
  | .ok | .unvaried => true
  | _ => false

/-- Judges an observation; `isTampered` says that the project's files have been changed. -/
def judge (isTampered : Bool) (seen : Observation) : Verdict :=
  let kind := seen.kind.getD ""
  if kind.isEmpty || Text.startsWith kind "<" then .failed
  else if kind == "NoneType" then .givesNothing
  else if seen.repeated.eraseDups.length != 1 then .unstable
  else if seen.repeated.any seen.questions.contains then .givesQuestion
  else if !seen.shares.isEmpty && Observation.mean seen.shares < 0.5 then .lowShare
  else if !seen.times.isEmpty && Observation.mean seen.times < 1 then .tooFast
  else if 2 ≤ seen.varied.length && seen.varied.eraseDups.length == 1 then .unmoved
  else if isTampered then .tampered
  else if seen.varied.length < 2 then .unvaried
  else .ok

end Verdict

/-- The observed workloads with their verdicts. -/
structure Judgement where
  name : String
  seen : Observation
  verdict : Verdict

namespace Judgement

/-- Reads what the checking tool prints, and judges it. -/
def allOf (isTampered : Bool) (value : Value) : Except Fault (List Judgement) := do
  let fields ← value.asFieldsFor "get"
  let rows ← match fields.lookup "semcheck" with
    | none | some .null => pure []
    | some rows => rows.asFields
  let judged (entry : String × Value) : Except Fault (Option Judgement) :=
    match entry.2 with
    | .record row => do
      let seen ← Observation.ofFields row
      return some { name := entry.1, seen, verdict := Verdict.judge isTampered seen }
    | _ => .ok none
  return (← rows.mapM judged).filterMap id

def hints : List String :=
  ["  returns-none: run() has no return — collect and return the call results",
   "  unstable: seed RNG in setup; avoid time/uuid/id in the return",
   "  returns-input: return repo output, not the parameter value",
   "  low-repo-time: <50% of run() time is in repo code — move glue to setup",
   "  param-invariant: return something derived from run()'s work, not setup",
   "  repo-modified: revert edits to repo files (git checkout -- <path>)"]

def line (judgement : Judgement) : String :=
  let seen := judgement.seen
  "  " ++ (if judgement.verdict.isFine then " " else "*") ++ " " ++ Text.flushLeft 32 judgement.name ++ " " ++
  Text.flushLeft 16 judgement.verdict.text ++ " (" ++ seen.kind.getD "?" ++ ", repo " ++
  Decimal.fixed 0 (100 * Observation.mean seen.shares) ++ "%) " ++ Decimal.fixed 1 (Observation.mean seen.times) ++ "ms"

/-- What needs mending comes first, else the order is that of the names. -/
def precedes (left right : Judgement) : Bool :=
  if left.verdict.isFine == right.verdict.isFine then decide (¬ right.name < left.name) else right.verdict.isFine

def lines (judgements : List Judgement) : List String :=
  if judgements.isEmpty then []
  else ["", "self-check (* = fix needed):"] ++ hints ++ (judgements.mergeSort precedes).map line

def unfit (judgements : List Judgement) : Nat := judgements.countP (!·.verdict.isFine)

def notes (judgements : List Judgement) : List String :=
  if judgements.isEmpty then []
  else [toString (unfit judgements) ++ "/" ++ toString judgements.length ++ " not self-checking"]

def toValue (judgements : List Judgement) : Value :=
  .record (judgements.map fun judgement => (judgement.name, .text judgement.verdict.text))

end Judgement

end Typeahead.Survey

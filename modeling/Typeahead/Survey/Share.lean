import Typeahead.Value.Access
import Typeahead.Text.Column

namespace Typeahead.Survey

/-! How much of the time of a workload is spent in the project's own code. -/

/-- Another place where a workload spends its time. -/
structure HotPlace where
  share : Float
  name : String

structure Shares where
  /-- The share of each workload in percent; below zero if it failed. -/
  byWorkload : List (String × Float) := []
  hot : List (String × List HotPlace) := []

namespace Shares

def hotPlaceOf (value : Value) : Except Fault HotPlace := do
  return { share := ← (← value.item 0).asFloat, name := (← value.item 1).display }

def orEmpty : Option Value → Value
  | some value => if value.isPresent then value else .record []
  | none => .record []

/-- Reads what the measuring tool prints. -/
def ofValue (value : Value) : Except Fault Shares := do
  let fields ← value.asFieldsFor "get"
  let shares ← (orEmpty (fields.lookup "repo_time_pct")).asFields
  let hot ← (orEmpty (fields.lookup "hot_ext")).asFields
  return {
    byWorkload := ← shares.mapM fun (name, share) => return (name, ← share.asFloat)
    hot := ← hot.mapM fun (name, places) => return (name, ← (← places.elements).mapM hotPlaceOf) }

/-- A workload is to spend this share in the project's code, and is marked below the other. -/
def target : Nat := 50
def tolerated : Nat := 45

def isMeasured (share : Float) : Bool := 0 ≤ share

def isLow (share : Float) : Bool := isMeasured share && share < Float.ofNat tolerated

def measured (shares : Shares) : Nat := shares.byWorkload.countP fun (_, share) => isMeasured share

def low (shares : Shares) : Nat := shares.byWorkload.countP fun (_, share) => isLow share

/-- How many are too low, if any was measured. -/
def low? (shares : Shares) : Option Nat := if shares.measured == 0 then none else some shares.low

def hotText (places : List HotPlace) : String :=
  if places.isEmpty then ""
  else
    let place (place : HotPlace) : String := place.name ++ " " ++ Decimal.fixed 0 place.share ++ "%"
    " (hot: " ++ Text.join " " (places.map place) ++ ")"

def line (shares : Shares) (entry : String × Float) : String :=
  let (name, share) := entry
  let shown := if isMeasured share then share else 0
  "  " ++ (if isLow share then "*" else " ") ++ " " ++ Text.flushLeft 32 name ++ " " ++
  Text.flushRight 5 (Decimal.fixed 1 shown) ++ "%" ++
  (if isLow share then hotText ((shares.hot.lookup name).getD []) else "") ++
  (if isMeasured share then "" else "  <error>")

/-- The workloads with their shares, the lowest first. -/
def lines (shares : Shares) : List String :=
  if shares.byWorkload.isEmpty then []
  else
    let sorted := shares.byWorkload.mergeSort fun left right => left.2 ≤ right.2
    ["", "repo_time (target " ++ toString target ++ "%; * = below " ++ toString tolerated ++ "%):"] ++
    sorted.map shares.line

/-- The part of the round's line that tells of the shares. -/
def notes (shares : Shares) : List String :=
  if shares.byWorkload.isEmpty then []
  else [toString shares.low ++ "/" ++ toString shares.measured ++ " below repo_time " ++ toString tolerated ++ "%"]

def toValue (shares : Shares) : Value := .record (shares.byWorkload.map fun (name, share) => (name, .float share))

end Shares

end Typeahead.Survey

import Typeahead.Candidate

namespace Typeahead

/-! What is known of a candidate that matches a query, and the order in which matches are listed. -/

open Letter

/-- A part of a total, kept exact. A part of nothing has no size and compares with none. -/
structure Share where
  hits : Nat
  total : Nat
  deriving DecidableEq, Repr

namespace Share

def zero : Share := ⟨0, 1⟩

def equals (left right : Share) : Bool :=
  left.total != 0 && right.total != 0 && left.hits * right.total == right.hits * left.total

def exceeds (left right : Share) : Bool :=
  left.total != 0 && right.total != 0 && right.hits * left.total < left.hits * right.total

def isWhole (share : Share) : Bool := share.total != 0 && share.hits == share.total

def toFloat (share : Share) : Float := Float.ofNat share.hits / Float.ofNat share.total

end Share

/-- Equality of floating-point numbers up to the rounding of one operation. -/
def almostEqual (left right : Float) : Bool :=
  let larger := if left.abs < right.abs then right.abs else left.abs
  (left - right).abs ≤ Float.ofScientific 2220446049250313 true 31 * larger

/-- One row of the table of common-subsequence lengths, from the row before it. -/
def commonRow (letter : UInt8) (diagonal left : Nat) : Bytes → List Nat → List Nat
  | other :: rest, above :: row =>
    let length := if upper letter == upper other then diagonal + 1 else max left above
    length :: commonRow letter above length rest row
  | _, _ => []

def commonRows (shorter : Bytes) (row : List Nat) : Bytes → List Nat
  | [] => row
  | letter :: longer => commonRows shorter (commonRow letter 0 0 shorter row) longer

/-- Length of a longest common subsequence, case aside. -/
def commonLength (first second : Bytes) : Nat :=
  let longer := if first.length > second.length then first else second
  let shorter := if first.length > second.length then second else first
  (commonRows shorter (List.replicate shorter.length 0) longer).getLastD 0

def startsWithAnyCase (text start : Bytes) : Bool :=
  match text, start with
  | _, [] => true
  | [], _ :: _ => false
  | letter :: text, other :: start => upper letter == upper other && startsWithAnyCase text start

structure Match where
  text : Bytes
  queryIsEmpty : Bool
  sameFirst : Bool
  /-- How much of the query consists of characters that start words. -/
  ofQuery : Share
  /-- How many of the characters that start words are in the query. -/
  ofBoundaries : Share
  textStartsWithQuery : Bool
  isLower : Bool
  indexSum : Nat

namespace Match

/-- The match of a query, if its letters occur in the candidate in order. -/
def ofQuery? (candidate : Candidate) (query : Bytes) (caseSensitive : Bool) : Option Match :=
  (candidate.index.walk caseSensitive candidate.index.whole query).map fun indexSum =>
    match query, candidate.text with
    | letter :: _, first :: _ =>
      let common := commonLength query candidate.boundaries
      { text := candidate.text, queryIsEmpty := false, sameFirst := upper letter == upper first,
        ofQuery := ⟨common, query.length⟩, ofBoundaries := ⟨common, candidate.boundaries.length⟩,
        textStartsWithQuery := startsWithAnyCase candidate.text query,
        isLower := candidate.isLower, indexSum }
    | _, _ =>
      { text := candidate.text, queryIsEmpty := query.isEmpty, sameFirst := false,
        ofQuery := .zero, ofBoundaries := .zero, textStartsWithQuery := false,
        isLower := candidate.isLower, indexSum }

/-- Dictionary order, lower case before upper case. -/
def textBefore : Bytes → Bytes → Bool
  | [], [] => false
  | [], _ :: _ => true
  | _ :: _, [] => false
  | letter :: left, other :: right =>
    let letter := signed (swapCase letter)
    let other := signed (swapCase other)
    letter < other || (!(other < letter) && textBefore left right)

/-- Whether the first match is listed before the second. -/
def before (left right : Match) : Bool :=
  if left.queryIsEmpty then textBefore left.text right.text
  else if left.sameFirst != right.sameFirst then left.sameFirst
  else
    let sameOfQuery := left.ofQuery.equals right.ofQuery
    let sameOfBoundaries := left.ofBoundaries.equals right.ofBoundaries
    let oneWhole := left.ofQuery.isWhole || right.ofQuery.isWhole
    if oneWhole && !sameOfQuery then left.ofQuery.exceeds right.ofQuery
    else if oneWhole && !sameOfBoundaries then left.ofBoundaries.exceeds right.ofBoundaries
    else if left.textStartsWithQuery != right.textStartsWithQuery then left.textStartsWithQuery
    else if !sameOfQuery then left.ofQuery.exceeds right.ofQuery
    else if !sameOfBoundaries then left.ofBoundaries.exceeds right.ofBoundaries
    else if left.indexSum != right.indexSum then left.indexSum < right.indexSum
    else if left.text.length != right.text.length then left.text.length < right.text.length
    else if left.isLower != right.isLower then left.isLower
    else textBefore left.text right.text

end Match

end Typeahead

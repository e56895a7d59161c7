import Typeahead.Value.Access
import Typeahead.Text.Alphanumeric

namespace Typeahead.Cursor

/-! Identifiers around a place in a line. Columns count characters from 0; a negative column counts from
the end of the line. -/

open Text

def identifierAt (line : List Char) (column : Int) : Except Fault Bool :=
  (Value.nth line column).map isIdentifierChar

/-- Moves left over characters that are not in an identifier. -/
def skipGapBefore (line : List Char) : Nat → Except Fault Nat
  | 0 => .ok 0
  | column + 1 => do
    if ← identifierAt line column then return column + 1 else skipGapBefore line column

/-- Moves left to the start of the identifier. -/
def startOfIdentifier (line : List Char) : Nat → Except Fault Nat
  | 0 => .ok 0
  | column + 1 => do
    if ← identifierAt line column then startOfIdentifier line column else return column + 1

/-- The column where the identifier before the cursor starts. -/
def completionStart (line : List Char) (column : Int) : Except Fault Int :=
  if column ≤ 0 then .ok column else (startOfIdentifier line column.toNat).map Int.ofNat

/-- The column where the last identifier before the cursor ends. -/
def endBefore (line : List Char) (column : Int) : Except Fault Int :=
  if column ≤ 0 then .ok column else (skipGapBefore line column.toNat).map Int.ofNat

/-- The identifier that ends at a column, unless it is too short. -/
def endingAt (minimum : Value) (line : List Char) (stop : Int) : Except Fault String := do
  let start ← completionStart line stop
  if ← (Value.int (stop - start)).less minimum then return ""
  else return String.ofList (Value.slice line (some start) (some stop))

/-- The identifier before a column of a line: the last one that ends there or earlier, or else the last
one of the line before. -/
def previous (minimum : Value) (lines : List (List Char)) (lineNumber column : Int) : Except Fault String := do
  let line ← Value.nth lines lineNumber
  let stop ← endBefore line column
  if stop != 0 then endingAt minimum line stop
  else
    match Value.nth lines (lineNumber - 1) with
    | .error _ => return ""
    | .ok before => endingAt minimum before (← endBefore before before.length)

/-- The same for a request: the lines are those of the file it comes from. -/
def previousIn (minimum request : Value) : Except Fault String := do
  let lineNumber ← request.field "line_num"
  let column ← request.field "column_num"
  let path ← request.field "filepath"
  let contents ← (← (← request.field "file_data").field (← path.asText)).field "contents"
  let lines := Text.splitChars '\n' (← contents.asTextFor "split").toList
  previous minimum lines (← lineNumber.asInt) (← column.asInt)

/-- The first column from here on with an identifier character. -/
def nextIdentifierChar? (line : List Char) (column : Int) : Option Int :=
  if line.length ≤ column then none
  else
    match identifierAt line column with
    | .error _ => none
    | .ok true => some column
    | .ok false => nextIdentifierChar? line (column + 1)
termination_by (line.length - column).toNat
decreasing_by omega

/-- Behind the last character of the identifier that the column is in. -/
def endOfIdentifier (line : List Char) (column : Int) : Except Fault Int :=
  if column < (line.length : Int) - 1 then do
    if ← identifierAt line (column + 1) then endOfIdentifier line (column + 1) else return column + 1
  else return column + 1
termination_by ((line.length : Int) - column).toNat
decreasing_by omega

/-- The identifier at a column, or the next one in the line. Nothing is found as an empty text. -/
def current (line : List Char) (column : Int) : String :=
  let found : Except Fault String := do
    let some place := nextIdentifierChar? line column | .error .outOfRange
    let start ← completionStart line place
    let stop ← endOfIdentifier line place
    return String.ofList (Value.slice line (some start) (some stop))
  match found with
  | .ok identifier => identifier
  | .error _ => ""

/-- The same for a request. A line or a column of another kind has no identifier. -/
def currentIn (request : Value) : Except Fault String := do
  let column ← request.field "column_num"
  let line ← request.field "line_value"
  match line, column.asInt with
  | .text line, .ok column => return current line.toList column
  | _, _ => return ""

/-- Whether the character typed last is in an identifier. -/
def lastIsIdentifier (line : List Char) (column : Int) : Bool :=
  if column - 1 < 0 then false
  else match Value.nth line (column - 1) with
    | .ok character => isIdentifierChar character
    | .error _ => false

/-- Whether the character typed last ends an identifier, or nothing but white space has been typed. -/
def identifierFinished (line : List Char) (column : Int) : Bool :=
  if column - 1 < 0 then true
  else match Value.nth line (column - 1) with
    | .error _ => false
    | .ok last =>
      if isIdentifierChar last then false
      else
        let before := if 0 < column - 1 then Value.nth line (column - 2) else .error .outOfRange
        match before with
        | .ok before => isIdentifierChar before || blank (Value.slice line none (some column))
        | .error _ => blank (Value.slice line none (some column))
where
  blank (text : List Char) : Bool := !text.isEmpty && text.all isSpace

end Typeahead.Cursor

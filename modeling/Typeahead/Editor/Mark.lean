import Typeahead.Editor.Basic

namespace Typeahead.Editor

/-! Marks in the editor's windows: signs beside lines and highlighted parts of lines. -/

inductive SignCommand where
  | unplaceAll (buffer : Int)
  | place (id : Nat) (line buffer : Int) (isError : Bool)
  deriving DecidableEq, Repr

namespace SignCommand

def placeText (id line buffer : String) (isError : Bool) : String :=
  "sign place " ++ id ++ " line=" ++ line ++ " name=" ++ (if isError then "YcmError" else "YcmWarning") ++
    " buffer=" ++ buffer

def text : SignCommand → String
  | unplaceAll buffer => "sign unplace * buffer=" ++ toString buffer
  | place id line buffer isError => placeText (toString id) (toString line) (toString buffer) isError

end SignCommand

/-- Takes all signs out of a buffer. -/
def unplaceSigns (buffer : Int) : Act Workspace Unit := do
  if 0 ≤ buffer then command (SignCommand.unplaceAll buffer).text

/-- Takes out the highlights that the program has made. -/
def clearHighlights : Act Workspace Unit := do
  let found ← evaluateNumber "getmatches()"
  for highlight in ← found.elements do
    let group ← (← highlight.field "group").asTextFor "startswith"
    if Text.startsWith group "Ycm" then
      let _ ← evaluate ("matchdelete(" ++ (← highlight.field "id").display ++ ")")

/-- A line and a column that lie within the current buffer. -/
def clamp (line column : Value) : Act Workspace (Value × Value) := do
  let buffer ← buffer
  let last : Value := .int buffer.lines.length
  let clampedLine ← if line.isPresent then do
      if ← last.less line then pure last else pure line
    else pure line
  let index ← (← clampedLine.minus (.int 1)).asInt
  let text ← Value.nth buffer.lines index
  let stop : Value := .int text.length
  let clampedColumn ← if column.isPresent then do
      if ← stop.less column then pure stop else pure column
    else pure column
  return (clampedLine, clampedColumn)

/-- The group that parts of errors or warnings are highlighted with. -/
def highlightGroup (isError : Bool) : String := if isError then "YcmErrorSection" else "YcmWarningSection"

/-- A place in a pattern. -/
def patternPlace (line column : Value) : String := "\\%" ++ line.display ++ "l\\%" ++ column.display ++ "c"

/-- Highlights from one place to another, or at one place only. -/
def highlight (line column lineEnd columnEnd : Value) (isError : Bool) : Act Workspace Int := do
  let lineEnd := if lineEnd.isPresent then lineEnd else line
  let (line, column) ← clamp line column
  let (lineEnd, columnEnd) ← clamp lineEnd columnEnd
  let pattern := patternPlace line column ++
    if columnEnd.isPresent then "\\_.*" ++ patternPlace lineEnd columnEnd else ""
  evaluateInt ("matchadd('" ++ highlightGroup isError ++ "', '" ++ pattern ++ "')")

end Typeahead.Editor

import Typeahead.Editor.Basic
import Typeahead.Editor.Quote

namespace Typeahead.Editor

/-! Messages to the user and questions. -/

/-- The command that shows a message and keeps it in the history. -/
def messageCommand (text : String) : String := "echohl WarningMsg | echom '" ++ escape text ++ "' | echohl None"

/-- The command that shows a notice of several lines. -/
def noticeCommand (text : String) : String := "echohl WarningMsg | echo '" ++ escape text ++ "' | echohl None"

def postMessage (text : String) : Act Workspace Unit := command (messageCommand text)

def postNotice (text : String) : Act Workspace Unit := command (noticeCommand text)

/-- The command that shows a line, with or without keeping it in the history. -/
def lineCommand (keeps : Bool) (line : String) : String :=
  (if keeps then "echom" else "echo") ++ " '" ++ escape line ++ "'"

/-- Shows a text line by line. -/
def showText (keeps : Bool) (text : String) : Act Workspace Unit :=
  (Text.split '\n' text).forM fun line => command (lineCommand keeps line)

/-- How much of a text is shown in a window of a width: nine tenths of it, counted from the end of the text
when negative. -/
def shownLength (width : Int) : Except Fault Int := Value.truncate (Float.ofInt width * 0.9)

/-- Shows what fits of a text, with the ruler and the pending command out of the way. -/
def showWithinWidth (text : String) : Act Workspace Unit := do
  let width ← evaluateInt "&columns"
  let shown := String.ofList (Value.slice text.toList none (some (← shownLength width)))
  let ruler ← evaluateInt "&ruler"
  let pending ← evaluateInt "&showcmd"
  command "set noruler noshowcmd"
  showText false shown
  command ("let &ruler = " ++ toString ruler)
  command ("let &showcmd = " ++ toString pending)

/-- The expression that asks the user to choose. -/
def dialogExpression (message : String) (choices : List String) (preset : Value) : String :=
  "confirm('" ++ escape message ++ "', '" ++ escape (Text.join "\n" choices) ++ "', " ++ preset.display ++ ")"

/-- Asks the user to choose, and answers which choice it was, counted from 0, or -1. -/
def dialog (message : String) (choices : List String) (preset : Value) : Act Workspace Int := do
  let chosen ← evaluateInt (dialogExpression message choices (← preset.plus (.int 1)))
  return chosen - 1

def confirm (message : String) : Act Workspace Bool := do
  return (← dialog message ["Ok", "Cancel"] (.int 0)) == 0

end Typeahead.Editor

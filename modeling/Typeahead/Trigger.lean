import Typeahead.Value.Access

namespace Typeahead

/-! Triggers: texts after which completions of a filetype are offered. -/

/-- The triggers of each filetype, each once. -/
abbrev TriggerTable := List (String × List String)

namespace TriggerTable

def insertText (texts : List String) (text : String) : List String :=
  if texts.contains text then texts else texts ++ [text]

def triggers (table : TriggerTable) (filetype : String) : List String := (table.lookup filetype).getD []

def add (table : TriggerTable) (filetype : String) (triggers : List String) : TriggerTable :=
  match table with
  | [] => [(filetype, triggers.foldl insertText [])]
  | (name, known) :: rest =>
    if name == filetype then (name, triggers.foldl insertText known) :: rest
    else (name, known) :: TriggerTable.add rest filetype triggers

/-- Adds triggers for each filetype of a key that lists filetypes between commas. -/
def addListed (table : TriggerTable) (entry : String × List String) : TriggerTable :=
  (Text.split ',' entry.1).foldl (fun table filetype => TriggerTable.add table filetype entry.2) table

/-- Reads a table whose keys list filetypes between commas. -/
def ofSpec (spec : Value) : Except Fault TriggerTable := do
  (← spec.asFields).foldlM (fun table (key, value) => do return addListed table (key, ← value.asTexts)) []

def defaultSpec : List (String × List String) :=
  [("c", ["->", "."]), ("objc", ["->", "."]), ("ocaml", [".", "#"]), ("cpp,objcpp", ["->", ".", "::"]),
   ("perl", ["->"]), ("php", ["->", "::"]),
   ("cs,java,javascript,d,vim,python,perl6,scala,vb,elixir,go", ["."]), ("ruby", [".", "::"]),
   ("lua", [".", ":"]), ("erlang", [":"])]

def defaults : TriggerTable := defaultSpec.foldl addListed []

/-- The default triggers together with those of the user, whose keys name one filetype each. -/
def withUser (user : Value) : Except Fault TriggerTable := do
  (← user.asTable).foldlM (fun table (filetype, value) => do
    return TriggerTable.add table filetype (← value.asTexts)) defaults

end TriggerTable

namespace Trigger

/-- Compares a trigger with the text before a column, from its last character to its first. -/
def endsBackwards (line : List Char) (column : Int) : Int → List Char → Except Fault Bool
  | _, [] => .ok false
  | offset, character :: rest =>
    let place := column - offset
    if place < 0 then .ok false
    else do
      let found ← Value.nth line place
      if found != character then return false
      else if rest.isEmpty then return true
      else endsBackwards line column (offset + 1) rest

/-- Whether the text before a column ends with a trigger. An empty trigger has no last character. -/
def endsAt (line : List Char) (column : Int) (trigger : List Char) : Except Fault Bool :=
  if trigger.isEmpty then
    if column - 1 < 0 then .ok false else (Value.nth line (column - 1)).bind fun _ => .error .outOfRange
  else endsBackwards line column 1 trigger.reverse

/-- Whether one of the triggers stands before the column. -/
def anyEndsAt (line : List Char) (column : Int) : List String → Except Fault Bool
  | [] => .ok false
  | trigger :: rest => do
    if ← endsAt line column trigger.toList then return true else anyEndsAt line column rest

end Trigger

end Typeahead

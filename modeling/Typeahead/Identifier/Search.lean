import Typeahead.Identifier.Scan

namespace Typeahead.Identifier.Search

/-! How much a search for the next comment or quoted text has to try. The five forms are tried one after the other at
every place of the text, and in a quoted text every way to read its backslashes is tried before the place is left. Each
part of a form that is entered is a step. A search is given up once it takes too many steps for the length of the text,
or when the choices that it has to come back to need more memory than there is for them. -/

/-- The steps taken, and how many blocks of memory may still be taken. -/
structure Effort where
  steps : Nat := 0
  blocks : Nat := 1024

/-- A part of a search; it has no result if the search is given up. -/
abbrev Trying := StateT Effort Option

/-- The length of the expression that describes the five forms. -/
def expressionLength : Nat := 74

/-- How many steps a search in a text of some length may take. -/
def limit (length : Nat) : Nat :=
  let length := max length 1
  max (length * (expressionLength * expressionLength) + 100000) (min (length * length + 100000) 100000000)

def step (count : Nat) : Trying Unit := modify fun effort => { effort with steps := effort.steps + count }

/-- Goes back to the choice before, unless too many steps have been taken. -/
def goBack (limit : Nat) : Trying Unit := do
  if limit < (← get).steps then failure

/-- The bytes of a block beside the link to the block before, and what remembering a choice and a count takes of them. -/
def blockRoom : Nat := 4072
def choiceSize : Nat := 24
def countSize : Nat := 48

/-- Remembers something where there is room, or else in a new block; gives the room that is left. -/
def remember (size room : Nat) : Trying Nat := do
  if size ≤ room then return room - size
  let effort ← get
  if effort.blocks == 0 then failure
  set { effort with blocks := effort.blocks - 1 }
  return blockRoom - size

/-- Reads a backslash together with the character behind it and goes on, if that is the one expected. -/
def pair (limit : Nat) (expected : UInt8) (next : Option UInt8) (behind : Trying Bool) : Trying Bool := do
  step 1
  if next == some expected then
    step 3
    behind
  else
    goBack limit
    return false

/-- Reads on in a quoted text and says whether it is closed. A backslash is read with a backslash or a closing quote
behind it, and if the text is not closed then, on its own. The count of the characters is remembered anew unless it
has been remembered last. -/
def quoted (limit : Nat) (closing : UInt8) (counted : Bool) (room : Nat) : Bytes → Trying Bool
  | [] => do
    step 1
    if !counted then
      let _ ← remember countSize room
    goBack limit
    return false
  | letter :: rest => do
    let behind : Nat → Trying Bool := match rest with
      | [] => fun _ => return false
      | _ :: after => fun room => quoted limit closing false room after
    step 1
    let room ← if counted then pure room else remember countSize room
    if letter == closing then
      let _ ← remember choiceSize room
      return true
    if letter == backslash then
      step 2
      let inPair ← remember choiceSize room
      if ← pair limit backslash rest.head? (behind inPair) then return true
      step 1
      let inEscape ← remember choiceSize (inPair + choiceSize)
      if ← pair limit closing rest.head? (behind inEscape) then return true
      step 3
      let freed := inEscape + choiceSize
      quoted limit closing (freed == room) freed rest
    else
      step 6
      quoted limit closing true room rest

/-- Whether a quoted text starts here, which it does not behind a backslash. -/
def quotedHere (limit : Nat) (closing : UInt8) (room : Nat) (before : Option UInt8) (text : Bytes) : Trying Bool := do
  step 2
  if let some letter := before then
    step 1
    if letter == backslash then
      step 1
      return false
  goBack limit
  step 1
  match text with
  | letter :: rest =>
    if letter == closing then quoted limit closing false room rest
    else
      goBack limit
      return false
  | [] =>
    goBack limit
    return false

/-- A character that may end a line of some encoding, but does not end one here. -/
def nextLine : UInt8 := 133

/-- Reads on to the end of the line. -/
def toLineEnd (limit : Nat) : Bytes → Trying Unit
  | [] => pure ()
  | letter :: rest => do
    if !endsLine letter then
      if letter == nextLine then
        step 1
        goBack limit
      step 1
      toLineEnd limit rest

def lineComment (limit : Nat) (text : Bytes) : Trying Unit := do
  step 1
  if let some letter := text.head? then
    if !endsLine letter && letter != nextLine then goBack limit
  toLineEnd limit text

/-- Reads on to the end of a block comment and says whether there is one. -/
def toCommentEnd (limit : Nat) : Bytes → Trying Bool
  | [] => return false
  | letter :: rest => do
    if letter == star then
      step 1
      if rest.head? == some slash then return true
      goBack limit
    step 1
    toCommentEnd limit rest

def blockComment (limit : Nat) (text : Bytes) : Trying Bool := do
  step 1
  if text.head? != some star then goBack limit
  toCommentEnd limit text

/-- The room in the first block when a text in single quotes is tried, after which one in double quotes is left to try. -/
def firstRoom : Nat := 4056

/-- Tries the five forms at a place. -/
def here (limit : Nat) (before : Option UInt8) (text : Bytes) : Trying Bool := do
  let first := text.head?
  let second := text.tail.head?
  step 1
  if first == some slash then
    step 2
    if second == some slash then
      lineComment limit (text.drop 2)
      return true
    goBack limit
  step 1
  if first == some hash then
    step 1
    lineComment limit text.tail
    return true
  step 1
  if first == some slash then
    step 1
    if second == some star then
      if ← blockComment limit (text.drop 2) then return true
    else goBack limit
  step 1
  if ← quotedHere limit quote firstRoom before text then return true
  quotedHere limit doubleQuote (firstRoom + choiceSize) before text

/-- Tries every place, also the one behind the text, until something is found. -/
def fromPlace (limit : Nat) (before : Option UInt8) (text : Bytes) : Trying Unit := do
  if ← here limit before text then return
  match text with
  | [] => return
  | letter :: rest => fromPlace limit (some letter) rest

/-- Whether the search in a text is given up. -/
def givesUp (text : Bytes) : Bool := ((fromPlace (limit text.length) none text).run {}).isNone

end Typeahead.Identifier.Search

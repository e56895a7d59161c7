import Typeahead.Value

namespace Typeahead.Value

/-! Reading the exchange format. A reader takes the characters it understands and gives the rest. -/

namespace Read

abbrev Rest := List Char

def isBlank (character : Char) : Bool :=
  character == ' ' || character == '\t' || character == '\n' || character == '\r'

def skipBlanks (text : Rest) : Rest := text.dropWhile isBlank

def hexDigit? (character : Char) : Option Nat :=
  if '0' ≤ character && character ≤ '9' then some (character.toNat - 48)
  else if 'a' ≤ character && character ≤ 'f' then some (character.toNat - 87)
  else if 'A' ≤ character && character ≤ 'F' then some (character.toNat - 55)
  else none

def unit? : Rest → Option (Nat × Rest)
  | a :: b :: c :: d :: rest => do
    let a ← hexDigit? a
    let b ← hexDigit? b
    let c ← hexDigit? c
    let d ← hexDigit? d
    return (((a * 16 + b) * 16 + c) * 16 + d, rest)
  | _ => none

/-- The second half of a character written as a pair of units. -/
def lowUnit? : Rest → Option (Nat × Rest)
  | '\\' :: 'u' :: rest => do
    let (unit, rest) ← unit? rest
    if 0xDC00 ≤ unit && unit < 0xE000 then some (unit, rest) else none
  | _ => none

def escaped? (text : Rest) : Option (Char × Rest) :=
  match text with
  | [] => none
  | '"' :: rest => some ('"', rest)
  | '\\' :: rest => some ('\\', rest)
  | '/' :: rest => some ('/', rest)
  | 'b' :: rest => some (Char.ofNat 8, rest)
  | 'f' :: rest => some (Char.ofNat 12, rest)
  | 'n' :: rest => some ('\n', rest)
  | 'r' :: rest => some ('\r', rest)
  | 't' :: rest => some ('\t', rest)
  | 'u' :: rest => do
    let (unit, rest) ← unit? rest
    if 0xD800 ≤ unit && unit < 0xDC00 then
      match lowUnit? rest with
      | some (low, rest) => return (Char.ofNat (0x10000 + (unit - 0xD800) * 0x400 + (low - 0xDC00)), rest)
      | none => return (Char.ofNat 0xFFFD, rest)
    else if 0xDC00 ≤ unit && unit < 0xE000 then return (Char.ofNat 0xFFFD, rest)
    else return (Char.ofNat unit, rest)
  | _ => none

/-- The characters up to the closing quote. -/
def quoted? : Nat → List Char → Rest → Option (String × Rest)
  | 0, _, _ => none
  | _ + 1, _, [] => none
  | _ + 1, seen, '"' :: rest => some (String.ofList seen.reverse, rest)
  | fuel + 1, seen, '\\' :: rest => do
    let (character, rest) ← escaped? rest
    quoted? fuel (character :: seen) rest
  | fuel + 1, seen, character :: rest =>
    if character.toNat < 32 then none else quoted? fuel (character :: seen) rest

def text? (text : Rest) : Option (String × Rest) := quoted? (text.length + 1) [] text

def natural (digits : List Char) : Nat :=
  digits.foldl (fun number digit => number * 10 + (digit.toNat - 48)) 0

def digits (text : Rest) : List Char × Rest := (text.takeWhile Char.isDigit, text.dropWhile Char.isDigit)

/-- The part behind the point, if there is one with a digit. -/
def fraction (text : Rest) : Option (List Char) × Rest :=
  match text with
  | '.' :: rest =>
    let (part, after) := digits rest
    if part.isEmpty then (none, text) else (some part, after)
  | _ => (none, text)

def exponent (text : Rest) : Option Int × Rest :=
  match text with
  | mark :: rest =>
    if mark == 'e' || mark == 'E' then
      let (negative, rest) := match rest with
        | '-' :: rest => (true, rest)
        | '+' :: rest => (false, rest)
        | rest => (false, rest)
      let (part, after) := digits rest
      if part.isEmpty then (none, text)
      else (some (if negative then -(natural part : Int) else natural part), after)
    else (none, text)
  | [] => (none, text)

/-- `digits · 10 ^ power` as a floating-point number. -/
def floatOf (negative : Bool) (number : Nat) (power : Int) : Float :=
  let size := if power < 0 then Float.ofScientific number true (-power).toNat
    else Float.ofScientific number false power.toNat
  if negative then -size else size

/-- A number: whole unless it has a point or an exponent. -/
def number? (text : Rest) : Option (Value × Rest) :=
  let (negative, text) := match text with
    | '-' :: rest => (true, rest)
    | text => (false, text)
  let whole := match text with
    | '0' :: rest => some (['0'], rest)
    | text => let (part, rest) := digits text
      if part.isEmpty then none else some (part, rest)
  match whole with
  | none => none
  | some (whole, rest) =>
    let (part, rest) := fraction rest
    let (power, rest) := exponent rest
    if part.isNone && power.isNone then
      some (.int (if negative then -(natural whole : Int) else natural whole), rest)
    else
      let part := part.getD []
      some (.float (floatOf negative (natural (whole ++ part)) (power.getD 0 - part.length)), rest)

def word? (text : Rest) : Option (Value × Rest) :=
  let words : List (String × Value) :=
    [("null", .null), ("true", .bool true), ("false", .bool false), ("NaN", .float (0.0 / 0.0)),
     ("Infinity", .float (1.0 / 0.0)), ("-Infinity", .float (-1.0 / 0.0))]
  words.findSome? fun (word, value) =>
    if word.toList.isPrefixOf text then some (value, text.drop word.length) else none

mutual

def value? : Nat → Rest → Option (Value × Rest)
  | 0, _ => none
  | fuel + 1, source =>
    match source with
    | '"' :: rest => (text? rest).map fun (content, rest) => (.text content, rest)
    | '[' :: rest =>
      match skipBlanks rest with
      | ']' :: rest => some (.list [], rest)
      | rest => (items? fuel rest).map fun (items, rest) => (.list items, rest)
    | '\x7b' :: rest =>
      match skipBlanks rest with
      | '\x7d' :: rest => some (.record [], rest)
      | rest => (fields? fuel [] rest).map fun (fields, rest) => (.record fields, rest)
    | source => (word? source).or (number? source)

/-- The items of a list, up to its end. -/
def items? : Nat → Rest → Option (List Value × Rest)
  | 0, _ => none
  | fuel + 1, source => do
    let (item, rest) ← value? fuel source
    match skipBlanks rest with
    | ']' :: rest => return ([item], rest)
    | ',' :: rest =>
      let (items, rest) ← items? fuel (skipBlanks rest)
      return (item :: items, rest)
    | _ => none

/-- The fields of a record, up to its end. The last one of a name counts. -/
def fields? : Nat → Fields → Rest → Option (Fields × Rest)
  | 0, _, _ => none
  | fuel + 1, seen, source =>
    match source with
    | '"' :: rest => do
      let (key, rest) ← text? rest
      match skipBlanks rest with
      | ':' :: rest =>
        let (value, rest) ← value? fuel (skipBlanks rest)
        let seen := seen.set key value
        match skipBlanks rest with
        | '\x7d' :: rest => return (seen, rest)
        | ',' :: rest => fields? fuel seen (skipBlanks rest)
        | _ => none
      | _ => none
    | _ => none

end

end Read

/-- The value a text writes in the exchange format, if the whole text is one. -/
def read? (text : String) : Option Value :=
  let characters := text.toList
  match Read.value? (characters.length + 1) (Read.skipBlanks characters) with
  | some (value, rest) => if (Read.skipBlanks rest).isEmpty then some value else none
  | none => none

end Typeahead.Value

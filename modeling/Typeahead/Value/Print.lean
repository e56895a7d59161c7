import Typeahead.Value
import Typeahead.Decimal.Layout
import Typeahead.Text.Printable

namespace Typeahead.Value

/-! Values as text: in the notation of literals, which messages and editor commands use, and in the
exchange format of requests and answers. -/

def hexDigits (width : Nat) (number : Nat) : String :=
  let digits := Nat.toDigits 16 number
  String.ofList (List.replicate (width - digits.length) '0' ++ digits)

/-- Single quotes, unless the text has some and no double ones. -/
def quoteFor (text : List Char) : Char := if text.contains '\'' && !text.contains '"' then '"' else '\''

def literalChar (quote : Char) (character : Char) : String :=
  if character == quote || character == '\\' then String.ofList ['\\', character]
  else if character == '\n' then "\\n"
  else if character == '\r' then "\\r"
  else if character == '\t' then "\\t"
  else if Text.isPrintable character then String.singleton character
  else if character.toNat < 0x100 then "\\x" ++ hexDigits 2 character.toNat
  else if character.toNat < 0x10000 then "\\u" ++ hexDigits 4 character.toNat
  else "\\U" ++ hexDigits 8 character.toNat

def literalText (text : String) : String :=
  let quote := quoteFor text.toList
  String.singleton quote ++ String.join (text.toList.map (literalChar quote)) ++ String.singleton quote

mutual

/-- The notation of literals. -/
def literal : Value → String
  | null => "None"
  | bool value => if value then "True" else "False"
  | int value => toString value
  | float value => Decimal.ofFloat .plain value
  | text value => literalText value
  | list items => "[" ++ literalItems items ++ "]"
  | record fields => "\x7b" ++ literalFields fields ++ "\x7d"

def literalItems : List Value → String
  | [] => ""
  | [item] => literal item
  | item :: rest => literal item ++ ", " ++ literalItems rest

def literalFields : List (String × Value) → String
  | [] => ""
  | [(key, value)] => literalText key ++ ": " ++ literal value
  | (key, value) :: rest => literalText key ++ ": " ++ literal value ++ ", " ++ literalFields rest

end

/-- A value as it is shown: a text stands for itself. -/
def display : Value → String
  | text value => value
  | value => value.literal

def exchangeChar (character : Char) : String :=
  let code := character.toNat
  if character == '"' then "\\\""
  else if character == '\\' then "\\\\"
  else if character == '\n' then "\\n"
  else if character == '\r' then "\\r"
  else if character == '\t' then "\\t"
  else if code == 8 then "\\b"
  else if code == 12 then "\\f"
  else if 32 ≤ code && code < 127 then String.singleton character
  else if code < 0x10000 then "\\u" ++ hexDigits 4 code
  else
    let rest := code - 0x10000
    "\\u" ++ hexDigits 4 (0xD800 + rest / 0x400) ++ "\\u" ++ hexDigits 4 (0xDC00 + rest % 0x400)

/-- The same with characters outside ASCII left as they are. -/
def plainExchangeChar (character : Char) : String :=
  if 127 ≤ character.toNat then String.singleton character else exchangeChar character

def exchangeText (char : Char → String) (text : String) : String :=
  "\"" ++ String.join (text.toList.map char) ++ "\""

section

variable (char : Char → String)

mutual

/-- The exchange format, with a blank after each separator; `char` writes the characters of texts. -/
def exchangeWith : Value → String
  | null => "null"
  | bool value => if value then "true" else "false"
  | int value => toString value
  | float value => Decimal.ofFloat .exchange value
  | text value => exchangeText char value
  | list items => "[" ++ exchangeItems items ++ "]"
  | record fields => "\x7b" ++ exchangeFields fields ++ "\x7d"

def exchangeItems : List Value → String
  | [] => ""
  | [item] => exchangeWith item
  | item :: rest => exchangeWith item ++ ", " ++ exchangeItems rest

def exchangeFields : List (String × Value) → String
  | [] => ""
  | [(key, value)] => exchangeText char key ++ ": " ++ exchangeWith value
  | (key, value) :: rest => exchangeText char key ++ ": " ++ exchangeWith value ++ ", " ++ exchangeFields rest

end

end

/-- The exchange format in ASCII. -/
def exchange (value : Value) : String := value.exchangeWith exchangeChar

/-- The exchange format with texts as they are. -/
def plainExchange (value : Value) : String := value.exchangeWith plainExchangeChar

end Typeahead.Value

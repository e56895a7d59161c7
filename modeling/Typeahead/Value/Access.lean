import Typeahead.Fault
import Typeahead.Value.Print
import Typeahead.Text.Basic
import Typeahead.Text.Digit

namespace Typeahead.Value

/-! Taking values apart. Each operation says which kinds it takes; any other kind is a fault. -/

def kindName : Value → String
  | null => "NoneType"
  | bool _ => "bool"
  | int _ => "int"
  | float _ => "float"
  | text _ => "str"
  | list _ => "list"
  | record _ => "dict"

def inQuotes (name : String) : String := "'" ++ name ++ "'"

def wrongKind (value : Value) (before after : String) : Fault :=
  .wrongKind (before ++ inQuotes value.kindName ++ after)

/-- A position counted from the end when negative. -/
def position? (length : Nat) (index : Int) : Option Nat :=
  if 0 ≤ index then (if index < length then some index.toNat else none)
  else if 0 ≤ length + index then some (length + index).toNat
  else none

/-- The items between two positions, which are counted from the end when negative. -/
def slice {α : Type} (items : List α) (start stop : Option Int) : List α :=
  let clamp (index : Int) : Nat :=
    if 0 ≤ index then min index.toNat items.length else (items.length + index).toNat
  let start := (start.map clamp).getD 0
  let stop := (stop.map clamp).getD items.length
  (items.take stop).drop start

theorem slice_to {α : Type} (items : List α) (count : Nat) :
    slice items none (some (count : Int)) = items.take count := by
  simp [slice, ← List.take_eq_take_min]

def nth {α : Type} (items : List α) (index : Int) : Except Fault α :=
  match (position? items.length index).bind (items[·]?) with
  | some item => .ok item
  | none => .error .outOfRange

theorem nth_of_lt {α : Type} {items : List α} {index : Nat} (inside : index < items.length) :
    nth items index = .ok items[index] := by
  have place : position? items.length index = some index := by simp [position?, inside]
  simp [nth, place, inside]

theorem nth_middle {α : Type} (front after : List α) (item : α) :
    nth (front ++ item :: after) front.length = .ok item := by
  rw [nth_of_lt (by simp)]
  simp

theorem exists_position_of_nth_ok {α : Type} {items : List α} {index : Int} {item : α}
    (found : nth items index = .ok item) :
    ∃ place, position? items.length index = some place ∧ items[place]? = some item := by
  rw [nth] at found
  split at found
  · rename_i isThere
    cases found
    exact Option.bind_eq_some_iff.mp isThere
  · cases found

/-- The field of a record. -/
def field (value : Value) (key : String) : Except Fault Value :=
  match value with
  | record fields => match fields.lookup key with
    | some found => .ok found
    | none => .error (.missing (.text key))
  | list _ => .error (.wrongKind "list indices must be integers or slices, not str")
  | text _ => .error (.wrongKind "string indices must be integers, not 'str'")
  | value => .error (value.wrongKind "" " object is not subscriptable")

/-- The field of a record, or nothing. -/
def field? (value : Value) (key : String) : Option Value :=
  match value with
  | record fields => fields.lookup key
  | _ => none

def item (value : Value) (index : Int) : Except Fault Value :=
  match value with
  | list items => nth items index
  | text content => (nth content.toList index).map fun character => .text (String.singleton character)
  | record _ => .error (.missing (.int index))
  | value => .error (value.wrongKind "" " object is not subscriptable")

/-- What a value is made of: items, characters or keys. -/
def elements (value : Value) : Except Fault (List Value) :=
  match value with
  | list items => .ok items
  | text content => .ok (content.toList.map fun character => .text (String.singleton character))
  | record fields => .ok (fields.map fun (key, _) => .text key)
  | value => .error (value.wrongKind "" " object is not iterable")

def size (value : Value) : Except Fault Nat :=
  match value with
  | list items => .ok items.length
  | text content => .ok content.length
  | record fields => .ok fields.length
  | value => .error (value.wrongKind "object of type " " has no len()")

/-- Whether an item is among the items of a list or the keys of a record, or a text in a text. -/
def holds (container item : Value) : Except Fault Bool :=
  match container, item with
  | list items, item => .ok (items.any (·.same item))
  | record fields, text key => .ok (fields.lookup key).isSome
  | record _, list _ => .error (.wrongKind "unhashable type: 'list'")
  | record _, record _ => .error (.wrongKind "unhashable type: 'dict'")
  | record _, _ => .ok false
  | text content, text part => .ok (Text.contains content part)
  | text _, item => .error (item.wrongKind "'in <string>' requires string as left operand, not " "")
  | value, _ => .error (value.wrongKind "argument of type " " is not iterable")

def asText (value : Value) : Except Fault String :=
  match value with
  | text content => .ok content
  | value => .error (value.wrongKind "a text was expected, not " "")

/-- A text where the text's own operations are called on the value. -/
def asTextFor (operation : String) (value : Value) : Except Fault String :=
  match value with
  | text content => .ok content
  | value => .error (.noFeature (inQuotes value.kindName ++ " object has no attribute " ++ inQuotes operation))

def asTexts (value : Value) : Except Fault (List String) := do (← value.elements).mapM asText

def asInt (value : Value) : Except Fault Int :=
  match value with
  | int number => .ok number
  | bool truth => .ok (if truth then 1 else 0)
  | value => .error (value.wrongKind "a whole number was expected, not " "")

/-- A record where the record's own operations are called on the value. -/
def asFieldsFor (operation : String) (value : Value) : Except Fault Fields :=
  match value with
  | record fields => .ok fields
  | value => .error (.noFeature (inQuotes value.kindName ++ " object has no attribute " ++ inQuotes operation))

def asFields (value : Value) : Except Fault Fields := value.asFieldsFor "items"

/-- One entry of a table that is given as a list of pairs. -/
def asPair (index : Nat) (entry : Value) : Except Fault (String × Value) :=
  match entry.elements with
  | .error _ =>
    .error (.wrongKind ("cannot convert dictionary update sequence element #" ++ toString index ++ " to a sequence"))
  | .ok [text key, value] => .ok (key, value)
  | .ok [key, _] => .error (key.wrongKind "unhashable type: " "")
  | .ok parts => .error (.refused ("dictionary update sequence element #" ++ toString index ++ " has length " ++
      toString parts.length ++ "; 2 is required"))

/-- A record, or a list of pairs that stands for one. -/
def asTable (value : Value) : Except Fault Fields :=
  match value with
  | record fields => .ok fields
  | value => do
    let entries ← (← value.elements).zipIdx.mapM fun (entry, index) => entry.asPair index
    return Fields.update [] entries

/-- A number as a floating-point number. -/
def asFloat (value : Value) : Except Fault Float :=
  match value.number? with
  | some (.inl number) => .ok (Float.ofInt number)
  | some (.inr number) => .ok number
  | none => .error (value.wrongKind "a number was expected, not " "")

/-- The sum of two numbers, whole if both are, or one text after the other. -/
def plus (left right : Value) : Except Fault Value :=
  match left, right with
  | text left, text right => .ok (.text (left ++ right))
  | list left, list right => .ok (.list (left ++ right))
  | left, right => match left.number?, right.number? with
    | some (.inl left), some (.inl right) => .ok (.int (left + right))
    | some (.inl left), some (.inr right) => .ok (.float (Float.ofInt left + right))
    | some (.inr left), some (.inl right) => .ok (.float (left + Float.ofInt right))
    | some (.inr left), some (.inr right) => .ok (.float (left + right))
    | _, _ => .error (.wrongKind ("unsupported operand type(s) for +: " ++ inQuotes left.kindName ++ " and " ++
        inQuotes right.kindName))

/-- The difference of two numbers, whole if both are. -/
def minus (left right : Value) : Except Fault Value :=
  match left.number?, right.number? with
  | some (.inl left), some (.inl right) => .ok (.int (left - right))
  | some (.inl left), some (.inr right) => .ok (.float (Float.ofInt left - right))
  | some (.inr left), some (.inl right) => .ok (.float (left - Float.ofInt right))
  | some (.inr left), some (.inr right) => .ok (.float (left - right))
  | _, _ => .error (.wrongKind ("unsupported operand type(s) for -: " ++ inQuotes left.kindName ++ " and " ++
      inQuotes right.kindName))

/-- The product of two numbers, whole if both are. -/
def times (left right : Value) : Except Fault Value :=
  match left.number?, right.number? with
  | some (.inl left), some (.inl right) => .ok (.int (left * right))
  | some (.inl left), some (.inr right) => .ok (.float (Float.ofInt left * right))
  | some (.inr left), some (.inl right) => .ok (.float (left * Float.ofInt right))
  | some (.inr left), some (.inr right) => .ok (.float (left * right))
  | _, _ => .error (.wrongKind ("unsupported operand type(s) for *: " ++ inQuotes left.kindName ++ " and " ++
      inQuotes right.kindName))

/-- Whether the first number or text comes before the second. -/
def less (left right : Value) : Except Fault Bool :=
  match left, right with
  | text left, text right => .ok (left < right)
  | left, right => match left.number?, right.number? with
    | some (.inl left), some (.inl right) => .ok (left < right)
    | some (.inl left), some (.inr right) => .ok (Float.ofInt left < right)
    | some (.inr left), some (.inl right) => .ok (left < Float.ofInt right)
    | some (.inr left), some (.inr right) => .ok (left < right)
    | _, _ => .error (.wrongKind ("'<' not supported between instances of " ++ inQuotes left.kindName ++ " and " ++
        inQuotes right.kindName))

/-- The digits of a numeral, with single underscores between them allowed. -/
def numeralDigits? : List Char → Option (List Nat)
  | [] => none
  | [character] => (Text.digit? character).map ([·])
  | character :: '_' :: rest => do
    let digit ← Text.digit? character
    let digits ← numeralDigits? rest
    return digit :: digits
  | character :: rest => do
    let digit ← Text.digit? character
    let digits ← numeralDigits? rest
    return digit :: digits

/-- A whole number written in decimal digits, with white space around it and a sign. -/
def numeral? (content : String) : Option Int :=
  let number (digits : List Char) : Option Int :=
    (numeralDigits? digits).map fun digits => (digits.foldl (fun number digit => number * 10 + digit) 0 : Nat)
  match Text.stripChars content.toList with
  | '-' :: digits => (number digits).map (- ·)
  | '+' :: digits => number digits
  | digits => number digits

/-- The whole part of a floating-point number. -/
def truncate (number : Float) : Except Fault Int :=
  if number.isNaN then .error (.refused "cannot convert float NaN to integer")
  else if number.isInf then .error (.refused "cannot convert float infinity to integer")
  else
    let binary := Decimal.Binary.ofBits (number.toBits.toNat % Nat.pow 2 63).toUInt64
    let size := Decimal.Ratio.scaled binary.significand 2 binary.exponent
    let whole : Int := (size.top / size.bottom : Nat)
    .ok (if Decimal.isNegative number then -whole else whole)

/-- The whole number a value stands for: a number without its fraction, or a numeral. -/
def toInt (value : Value) : Except Fault Int :=
  match value with
  | int number => .ok number
  | bool truth => .ok (if truth then 1 else 0)
  | float number => truncate number
  | text content => match numeral? content with
    | some number => .ok number
    | none => .error (.notNumeral content)
  | value =>
    .error (value.wrongKind "int() argument must be a string, a bytes-like object or a real number, not " "")

end Typeahead.Value

import Typeahead.Table

namespace Typeahead

/-! Values without a fixed shape: what requests, options, editor variables and engine answers are
made of. A record keeps its fields in the order in which they were first written. -/

inductive Value where
  | null
  | bool (value : Bool)
  | int (value : Int)
  | float (value : Float)
  | text (value : String)
  | list (items : List Value)
  | record (fields : List (String × Value))
  deriving Inhabited

namespace Value

abbrev Fields := List (String × Value)

def Fields.get? (fields : Fields) (key : String) : Option Value := fields.lookup key

/-- A written field keeps its place; a new one comes last. -/
def Fields.set (fields : Fields) (key : String) (value : Value) : Fields := Table.put key value fields

def Fields.update (fields changes : Fields) : Fields := Table.putAll changes fields

def Fields.has (fields : Fields) (key : String) : Bool := (fields.get? key).isSome

def texts (items : List String) : Value := .list (items.map .text)

def ofOption (value : Option Value) : Value := value.getD .null

mutual

/-- How deep values lie in one another. -/
def depth : Value → Nat
  | list items => itemsDepth items + 1
  | record fields => fieldsDepth fields + 1
  | _ => 0

def itemsDepth : List Value → Nat
  | [] => 0
  | item :: rest => max (depth item) (itemsDepth rest)

def fieldsDepth : List (String × Value) → Nat
  | [] => 0
  | (_, value) :: rest => max (depth value) (fieldsDepth rest)

end

/-- What counts as present: neither nothing, nor false, nor zero, nor empty. -/
def isPresent : Value → Bool
  | null => false
  | bool value => value
  | int value => value != 0
  | float value => !(value == 0)
  | text value => value != ""
  | list items => !items.isEmpty
  | record fields => !fields.isEmpty

/-- The number a value stands for where numbers are compared: truth values count as 0 and 1. -/
def number? : Value → Option (Int ⊕ Float)
  | bool value => some (.inl (if value then 1 else 0))
  | int value => some (.inl value)
  | float value => some (.inr value)
  | _ => none

private def sameNumber : Int ⊕ Float → Int ⊕ Float → Bool
  | .inl left, .inl right => left == right
  | .inl left, .inr right => Float.ofInt left == right
  | .inr left, .inl right => left == Float.ofInt right
  | .inr left, .inr right => left == right

mutual

/-- Equality of contents: numbers by value, records whatever the order of their fields. -/
def same (left right : Value) : Bool :=
  match left, right with
  | null, null => true
  | text left, text right => left == right
  | list left, list right => sameItems left right
  | record left, record right => left.length == right.length && sameFields left right
  | left, right =>
    match left.number?, right.number? with
    | some left, some right => sameNumber left right
    | _, _ => false

def sameItems (left right : List Value) : Bool :=
  match left, right with
  | [], [] => true
  | first :: left, second :: right => same first second && sameItems left right
  | _, _ => false

def sameFields (left : List (String × Value)) (right : List (String × Value)) : Bool :=
  match left with
  | [] => true
  | (key, value) :: left =>
    (match right.lookup key with
    | some other => same value other
    | none => false) && sameFields left right

end

instance : BEq Value := ⟨same⟩

end Value

end Typeahead

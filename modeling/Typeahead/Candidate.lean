import Typeahead.Letter
import Typeahead.Fault

namespace Typeahead

/-! Candidates: a text with what is known of it before any query is seen. The letter index gives, from
every place of the text, the later places of each letter in increasing order. -/

open Letter

/-- The characters that start a word of the text, in lower case: the first one unless it is an
underscore, an upper-case letter after anything else, and a letter after an underscore. -/
def wordBoundariesAfter (previous : UInt8) : Bytes → Bytes
  | [] => []
  | letter :: rest =>
    let starts := (isUpper letter && !isUpper previous) || (previous == underscore && isAlpha letter)
    if starts then lower letter :: wordBoundariesAfter letter rest else wordBoundariesAfter letter rest

def wordBoundaries : Bytes → Bytes
  | [] => []
  | letter :: rest =>
    if letter == underscore then wordBoundariesAfter letter rest
    else lower letter :: wordBoundariesAfter letter rest

/-- A set of ASCII characters, with one bit for both cases of a letter. -/
abbrev LetterSet := BitVec 128

namespace LetterSet

def insert (letters : LetterSet) (letter : UInt8) : LetterSet :=
  letters ||| BitVec.twoPow 128 (lower letter).toNat

def ofText : Bytes → Except Fault LetterSet
  | [] => .ok 0
  | letter :: rest =>
    if isAscii letter then (ofText rest).map (·.insert letter) else .error .outOfRange

def contains (letters wanted : LetterSet) : Bool := letters &&& wanted == wanted

def toList (letters : LetterSet) : List Nat := (List.range 128).filter letters.getLsbD

end LetterSet

/-- One place of a text. -/
structure Place where
  index : Nat
  isUpper : Bool
  deriving DecidableEq, Repr

/-- The places of each letter, both cases together, under its lower-case form. -/
abbrev LetterTable := List (UInt8 × List Place)

namespace LetterTable

def places? (table : LetterTable) (letter : UInt8) : Option (List Place) := table.lookup (lower letter)

/-- Changes the list of a letter, which is made anew if there is none. -/
def update (table : LetterTable) (letter : UInt8) (change : List Place → List Place) : LetterTable :=
  match table with
  | [] => [(lower letter, change [])]
  | (key, places) :: rest =>
    if key == lower letter then (key, change places) :: rest
    else (key, places) :: LetterTable.update rest letter change

def append (table : LetterTable) (letter : UInt8) (place : Place) : LetterTable := table.update letter (· ++ [place])

def prepend (table : LetterTable) (letter : UInt8) (place : Place) : LetterTable := table.update letter (place :: ·)

end LetterTable

/-- The table of the whole text, and for each place the table of what follows it. -/
structure LetterIndex where
  whole : LetterTable
  after : List LetterTable

namespace LetterIndex

/-- The place of a letter that stands in the text at a number. -/
def placeOf (entry : UInt8 × Nat) : Place := ⟨entry.2, isUpper entry.1⟩

/-- The letters of the text are entered from the first to the last, each behind those that are there. -/
def wholeOf (text : Bytes) : LetterTable :=
  text.zipIdx.foldl (fun table entry => table.append entry.1 (placeOf entry)) []

/-- Enters a letter before all others in the tables of the places that it follows. -/
def enterBefore (entry : UInt8 × Nat) (tables : List LetterTable) : List LetterTable :=
  tables.mapIdx fun place table => if place < entry.2 then table.prepend entry.1 (placeOf entry) else table

/-- The letters of the text are entered from the last to the first. -/
def afterOf (text : Bytes) : List LetterTable := text.zipIdx.foldr enterBefore (List.replicate text.length [])

def ofText (text : Bytes) : LetterIndex := ⟨wholeOf text, afterOf text⟩

/-- The place taken for a letter of the query: the first one, or the first upper-case one where case
counts and the letter is upper case. -/
def choose (caseSensitive : Bool) (letter : UInt8) (places : List Place) : Option Place :=
  if caseSensitive && Letter.isUpper letter then places.find? (·.isUpper) else places.head?

/-- Matches the letters of a query one after another, each at the chosen place after the one before;
gives the sum of the places. -/
def walk (index : LetterIndex) (caseSensitive : Bool) (table : LetterTable) : Bytes → Option Nat
  | [] => some 0
  | letter :: query => do
    let places ← table.places? letter
    let place ← choose caseSensitive letter places
    let following ← index.after[place.index]?
    let sum ← walk index caseSensitive following query
    return place.index + sum

end LetterIndex

structure Candidate where
  text : Bytes
  boundaries : Bytes
  isLower : Bool
  letters : LetterSet
  index : LetterIndex

namespace Candidate

def ofText (text : Bytes) : Except Fault Candidate :=
  (LetterSet.ofText text).map fun letters =>
    { text, boundaries := wordBoundaries text, isLower := text.all Letter.isLower, letters,
      index := LetterIndex.ofText text }

/-- Texts that cannot be shown take part as the empty text. -/
def shown (text : Bytes) : Bytes := if text.all isPrintable then text else []

end Candidate

end Typeahead

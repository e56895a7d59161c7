import Typeahead.Text.Space

namespace Typeahead.Text

/-! Cutting and joining texts. Positions count characters. -/

def startsWith (text start : String) : Bool := start.toList.isPrefixOf text.toList

def endsWith (text ending : String) : Bool := ending.toList.isSuffixOf text.toList

def drop (count : Nat) (text : String) : String := String.ofList (text.toList.drop count)

def take (count : Nat) (text : String) : String := String.ofList (text.toList.take count)

/-- The pieces between the separators; there is always one more than there are separators. -/
def splitChars (separator : Char) : List Char → List (List Char)
  | [] => [[]]
  | character :: rest =>
    match splitChars separator rest with
    | [] => [[character]]
    | piece :: pieces => if character == separator then [] :: piece :: pieces else (character :: piece) :: pieces

def split (separator : Char) (text : String) : List String :=
  (splitChars separator text.toList).map String.ofList

/-- The non-empty pieces between runs of white space. -/
def words (text : String) : List String :=
  let pieces := splitChars ' ' (text.toList.map fun character => if isSpace character then ' ' else character)
  (pieces.filter (!·.isEmpty)).map String.ofList

def stripChars (text : List Char) : List Char :=
  ((text.dropWhile isSpace).reverse.dropWhile isSpace).reverse

def strip (text : String) : String := String.ofList (stripChars text.toList)

/-- Whether a text occurs in another. -/
def occursIn (part : List Char) : List Char → Bool
  | [] => part.isEmpty
  | character :: rest => part.isPrefixOf (character :: rest) || occursIn part rest

def contains (text part : String) : Bool := occursIn part.toList text.toList

def join (separator : String) (texts : List String) : String := String.intercalate separator texts

/-- Texts in the order of their code points. -/
def sorted (texts : List String) : List String := texts.mergeSort fun left right => decide (¬ right < left)

/-- Line ends of all kinds as line feeds. -/
def unifyLineEnds : List Char → List Char
  | [] => []
  | '\r' :: '\n' :: rest => '\n' :: unifyLineEnds rest
  | '\r' :: rest => '\n' :: unifyLineEnds rest
  | character :: rest => character :: unifyLineEnds rest

/-- The lines of a text, each with the line feed that ends it. -/
def lineChars : List Char → List (List Char)
  | [] => []
  | '\n' :: rest => ['\n'] :: lineChars rest
  | character :: rest =>
    match lineChars rest with
    | line :: lines => (character :: line) :: lines
    | [] => [[character]]

/-- The lines of a file's text, each with the line feed that ends it. -/
def lines (text : String) : List String := (lineChars (unifyLineEnds text.toList)).map String.ofList

end Typeahead.Text

namespace Typeahead

/-! Letters of candidates and queries. Matching works on the bytes of a text in UTF-8: only the
ASCII letters have case, and a byte above 127 is never a letter. -/

abbrev Bytes := List UInt8

namespace Letter

def isUpper (letter : UInt8) : Bool := 65 ≤ letter && letter ≤ 90

def isLower (letter : UInt8) : Bool := 97 ≤ letter && letter ≤ 122

def isAlpha (letter : UInt8) : Bool := isUpper letter || isLower letter

def isDigit (letter : UInt8) : Bool := 48 ≤ letter && letter ≤ 57

def underscore : UInt8 := 95

/-- The characters an identifier continues with. -/
def isWord (letter : UInt8) : Bool := isAlpha letter || isDigit letter || letter == underscore

def isAscii (letter : UInt8) : Bool := letter < 128

def isPrintable (letter : UInt8) : Bool := 32 ≤ letter && letter ≤ 126

def lower (letter : UInt8) : UInt8 := if isUpper letter then letter + 32 else letter

def upper (letter : UInt8) : UInt8 := if isLower letter then letter - 32 else letter

def swapCase (letter : UInt8) : UInt8 := if isUpper letter then letter + 32 else upper letter

/-- The value of a byte read as a signed number, the order in which texts are compared. -/
def signed (letter : UInt8) : Int := if letter < 128 then letter.toNat else (letter.toNat : Int) - 256

end Letter

namespace Bytes

def ofString (text : String) : Bytes := text.toUTF8.toList

/-- The text whose UTF-8 form is given; bytes that are no UTF-8 form give the empty text. -/
def toString (bytes : Bytes) : String := (String.fromUTF8? (ByteArray.mk bytes.toArray)).getD ""

end Bytes

end Typeahead

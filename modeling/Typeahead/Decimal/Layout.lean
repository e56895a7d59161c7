import Typeahead.Decimal.Shortest

namespace Typeahead.Decimal

/-! How numbers are written. -/

/-- The decisions of a number format: between which powers of ten the digits are written around a point,
and what the rest looks like. -/
structure Layout where
  /-- Below `10 ^ smallest` the number is written with an exponent. -/
  smallest : Int
  /-- From `10 ^ largest` on the number is written with an exponent. -/
  largest : Int
  infinity : String
  notANumber : String

namespace Layout

/-- Positional from 0.0001 up to 10^16, one digit at least on both sides of the point, exponents with a
sign and two digits at least. -/
def plain : Layout := ⟨-4, 16, "inf", "nan"⟩

/-- The same digits, with the words of the exchange format for what is not finite. -/
def exchange : Layout := ⟨-4, 16, "Infinity", "NaN"⟩

end Layout

private def zeros (count : Nat) : String := String.ofList (List.replicate count '0')

private def signedExponent (exponent : Int) : String :=
  let digits := toString exponent.natAbs
  (if exponent < 0 then "e-" else "e+") ++ (if digits.length < 2 then "0" ++ digits else digits)

/-- Writes digits of which the first has the given power of ten. -/
def write (layout : Layout) (value : Digits) : String :=
  let digits := (toString value.digits).toList
  let leading := value.power + digits.length - 1
  if layout.smallest ≤ leading && leading < layout.largest then
    if leading < 0 then "0." ++ zeros (-leading - 1).toNat ++ String.ofList digits
    else
      let whole := digits.take (leading.toNat + 1)
      let part := digits.drop (leading.toNat + 1)
      String.ofList whole ++ zeros (leading.toNat + 1 - digits.length) ++ "." ++
        (if part.isEmpty then "0" else String.ofList part)
  else
    let rest := digits.drop 1
    String.ofList (digits.take 1) ++ (if rest.isEmpty then "" else "." ++ String.ofList rest) ++
      signedExponent leading

def isNegative (number : Float) : Bool := number.toBits.toNat / Nat.pow 2 63 == 1

/-- The shortest text that reads back as the number. -/
def ofFloat (layout : Layout) (number : Float) : String :=
  let sign := if isNegative number then "-" else ""
  let bits := number.toBits.toNat % Nat.pow 2 63
  if number.isNaN then layout.notANumber
  else if number.isInf then sign ++ layout.infinity
  else if bits == 0 then sign ++ "0.0"
  else sign ++ write layout (shortest (Binary.ofBits bits.toUInt64))

/-- The number with a fixed count of places, rounded on its exact value, a half to the even neighbour. -/
def fixed (places : Nat) (number : Float) : String :=
  let sign := if isNegative number then "-" else ""
  if number.isNaN then "nan"
  else if number.isInf then sign ++ "inf"
  else
    let binary := Binary.ofBits (number.toBits.toNat % Nat.pow 2 63).toUInt64
    let value := Ratio.scaled binary.significand 2 binary.exponent
    let digits := (toString (roundHalfEven ⟨value.top * Nat.pow 10 places, value.bottom⟩)).toList
    let padded := List.replicate (places + 1 - digits.length) '0' ++ digits
    let whole := padded.take (padded.length - places)
    let part := padded.drop (padded.length - places)
    sign ++ String.ofList whole ++ (if places == 0 then "" else "." ++ String.ofList part)

end Typeahead.Decimal

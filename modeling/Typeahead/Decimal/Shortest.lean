namespace Typeahead.Decimal

/-! The decimal with the fewest digits that reads back as a given binary floating-point number. -/

/-- A positive finite number `significand · 2 ^ exponent`. `closeBelow` says that the next smaller number
is only half as far away as the next larger one. -/
structure Binary where
  significand : Nat
  exponent : Int
  closeBelow : Bool
  deriving DecidableEq, Repr

namespace Binary

def ofBits (bits : UInt64) : Binary :=
  let fraction : Nat := bits.toNat % Nat.pow 2 52
  let scale : Nat := bits.toNat / Nat.pow 2 52 % Nat.pow 2 11
  if scale == 0 then ⟨fraction, -1074, false⟩
  else ⟨Nat.pow 2 52 + fraction, (scale : Int) - 1075, fraction == 0 && scale != 1⟩

end Binary

/-- A fraction of natural numbers. -/
structure Ratio where
  top : Nat
  bottom : Nat
  deriving DecidableEq, Repr

namespace Ratio

def le (left right : Ratio) : Bool := left.top * right.bottom ≤ right.top * left.bottom

def lt (left right : Ratio) : Bool := left.top * right.bottom < right.top * left.bottom

/-- `value · base ^ power`. -/
def scaled (value : Nat) (base : Nat) (power : Int) : Ratio :=
  if 0 ≤ power then ⟨value * Nat.pow base power.toNat, 1⟩ else ⟨value, Nat.pow base (-power).toNat⟩

end Ratio

/-- The reals that round to a number, with a quarter of its last place as unit. -/
structure Interval where
  low : Ratio
  high : Ratio
  closed : Bool

namespace Interval

def of (number : Binary) : Interval :=
  let quarter := number.exponent - 2
  let centre := 4 * number.significand
  { low := .scaled (if number.closeBelow then centre - 1 else centre - 2) 2 quarter
    high := .scaled (centre + 2) 2 quarter
    closed := number.significand % 2 == 0 }

def contains (interval : Interval) (value : Ratio) : Bool :=
  if interval.closed then interval.low.le value && value.le interval.high
  else interval.low.lt value && value.lt interval.high

end Interval

/-- The power of ten above the leading digit: the least `power` with `value < 10 ^ power`. -/
def magnitude (value : Ratio) : Int :=
  let whole := value.top / value.bottom
  if whole == 0 then
    let rec below : Nat → Nat → Int
      | 0, shift => -shift
      | fuel + 1, shift =>
        if value.bottom ≤ value.top * Nat.pow 10 (shift + 1) then -shift else below fuel (shift + 1)
    below 400 0
  else (Nat.toDigits 10 whole).length

/-- A number `digits · 10 ^ power`. -/
structure Digits where
  digits : Nat
  power : Int
  deriving DecidableEq, Repr

namespace Digits

def toRatio (value : Digits) : Ratio := .scaled value.digits 10 value.power

/-- The neighbours of a value on the grid of multiples of `10 ^ power`, the lower one first. -/
def neighbours (value : Ratio) (power : Int) : Digits × Digits :=
  let shifted : Ratio := if 0 ≤ power then ⟨value.top, value.bottom * Nat.pow 10 power.toNat⟩
    else ⟨value.top * Nat.pow 10 (-power).toNat, value.bottom⟩
  let lower := shifted.top / shifted.bottom
  (⟨lower, power⟩, ⟨lower + 1, power⟩)

/-- The neighbour inside the interval; of two, the nearer one, of two equally near the even one. -/
def onGrid? (interval : Interval) (value : Ratio) (power : Int) : Option Digits :=
  let (lower, upper) := neighbours value power
  match interval.contains lower.toRatio, interval.contains upper.toRatio with
  | true, false => some lower
  | false, true => some upper
  | false, false => none
  | true, true =>
    let lowerSum : Ratio :=
      ⟨lower.toRatio.top * upper.toRatio.bottom + upper.toRatio.top * lower.toRatio.bottom,
       lower.toRatio.bottom * upper.toRatio.bottom⟩
    let doubled : Ratio := ⟨2 * value.top, value.bottom⟩
    if doubled.lt lowerSum then some lower
    else if lowerSum.lt doubled then some upper
    else if lower.digits % 2 == 0 then some lower else some upper

/-- Trailing zeros move into the power. -/
def normalized (value : Digits) : Digits :=
  let rec go : Nat → Nat → Int → Digits
    | 0, digits, power => ⟨digits, power⟩
    | fuel + 1, digits, power => if digits % 10 == 0 && digits != 0 then go fuel (digits / 10) (power + 1) else ⟨digits, power⟩
  go 20 value.digits value.power

end Digits

/-- The fewest digits that read back. -/
def shortest (number : Binary) : Digits :=
  let value := Ratio.scaled number.significand 2 number.exponent
  let interval := Interval.of number
  let leading := magnitude value
  let counts : List Nat := (List.range 17).map (· + 1)
  ((counts.findSome? fun (count : Nat) => Digits.onGrid? interval value (leading - (count : Int))).getD ⟨number.significand, 0⟩).normalized

/-- A fraction rounded to a whole number, a half to the even neighbour. -/
def roundHalfEven (value : Ratio) : Nat :=
  let whole := value.top / value.bottom
  let rest := 2 * (value.top % value.bottom)
  if rest < value.bottom then whole
  else if value.bottom < rest then whole + 1
  else if whole % 2 == 0 then whole else whole + 1

end Typeahead.Decimal

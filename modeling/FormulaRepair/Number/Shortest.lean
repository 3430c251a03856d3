import FormulaRepair.Number.FloatParts
import FormulaRepair.Text.Basic

/-! # The shortest decimal text of a binary fraction

A finite number stands for the interval of reals that are rounded to it. Its text has the fewest
digits of any decimal in that interval and, among those, is nearest to the number. The digits are
found in exact arithmetic on natural numbers. Small and large exponents are written after an `e`,
the others by the place of the point.
-/

namespace FormulaRepair.Decimal

/-- A positive binary fraction `mantissa * 2 ^ exponent`. At a power of two the next smaller fraction
is only half as far away as the next larger one. -/
structure Binary where
  mantissa : Nat
  exponent : Int
  atPowerOfTwo : Bool
deriving Repr

/-- A decimal with the point in front of its digits, moved `point` places to the right. -/
structure Digits where
  digits : Nat
  point : Int
deriving Repr

/-- Four times a fraction, as a quotient of natural numbers. -/
def Binary.quotient (value : Binary) (quarters : Nat) : Nat × Nat :=
  let exponent := value.exponent - 2
  (quarters * Nat.pow 2 exponent.toNat, Nat.pow 2 (-exponent).toNat)

/-- The number of places by which a number below one has to move to the left to reach one. -/
def leadingZeros (numerator denominator : Nat) : Nat → Nat
  | 0 => 0
  | fuel + 1 =>
      if denominator ≤ numerator then 0
      else leadingZeros (numerator * 10) denominator fuel + 1

/-- The number of decimal places in front of the point; not positive for a number below a tenth. -/
def pointOf (numerator denominator : Nat) : Int :=
  if denominator ≤ numerator then (Nat.toDigits 10 (numerator / denominator)).length
  else 1 - (leadingZeros numerator denominator 400 : Int)

/-- The digits of a number on the grid of decimals with a given number of digits, when a point of
that grid is rounded to the number. -/
def onGrid? (value : Binary) (count : Nat) : Option Digits :=
  let (numerator, denominator) := value.quotient (4 * value.mantissa)
  let (low, _) := value.quotient (4 * value.mantissa - if value.atPowerOfTwo then 1 else 2)
  let (high, _) := value.quotient (4 * value.mantissa + 2)
  let point := pointOf numerator denominator
  let shift := (count : Int) - point
  let up := Nat.pow 10 shift.toNat
  let down := Nat.pow 10 (-shift).toNat
  let grid := denominator * down
  let scaled := numerator * up
  let below := scaled / grid
  let closed := value.mantissa % 2 == 0
  let inside := fun (digits : Nat) =>
    let place := digits * grid
    (low * up < place && place < high * up) ||
      (closed && (place == low * up || place == high * up))
  let remainder := scaled % grid
  let upIsNearer := 2 * remainder > grid || (2 * remainder == grid && below % 2 == 1)
  match inside below, inside (below + 1) with
  | true, true => some ⟨if upIsNearer then below + 1 else below, point⟩
  | true, false => some ⟨below, point⟩
  | false, true => some ⟨below + 1, point⟩
  | false, false => none

/-- The first grid that has a point for the number; seventeen digits always suffice. -/
def shortest (value : Binary) : Digits × Nat :=
  let found := (List.range 17).findSome? fun less =>
    (onGrid? value (less + 1)).map fun digits => (digits, less + 1)
  found.getD (⟨0, 0⟩, 1)

/-- A text of digits without its trailing zeros. -/
def trimZeros (digits : Text) : Text := (digits.reverse.dropWhile (· == '0')).reverse

/-- Exponents from here on are written after an `e`. -/
def exponentCeiling : Int := 16

/-- Exponents below this one are written after an `e`. -/
def exponentFloor : Int := -4

/-- Digits with the point at its place, or with an exponent of at least two digits. -/
def layOut (digits : Text) (point : Int) : Text :=
  let exponent := point - 1
  if exponentFloor ≤ exponent ∧ exponent < exponentCeiling then
    if point ≤ 0 then '0' :: '.' :: List.replicate (-point).toNat '0' ++ digits
    else if digits.length ≤ point.toNat then
      digits ++ List.replicate (point.toNat - digits.length) '0' ++ ['.', '0']
    else digits.take point.toNat ++ '.' :: digits.drop point.toNat
  else
    let power := Text.ofNat exponent.natAbs
    let padded := if power.length < 2 then '0' :: power else power
    digits.take 1 ++ (if digits.length = 1 then [] else '.' :: digits.drop 1) ++
      ['e', if exponent < 0 then '-' else '+'] ++ padded

/-- The text of a positive binary fraction. -/
def Binary.text (value : Binary) : Text :=
  let (found, count) := shortest value
  let digits := Text.ofNat found.digits
  -- rounding up may have carried into one more digit
  let point := found.point + (digits.length - count : Int)
  layOut (trimZeros digits) point

/-- The shortest text that is read back as the number. -/
def ofFloat (number : Float) : Text :=
  let parts := FloatParts.ofFloat number
  let sign : Text := if parts.negative then ['-'] else []
  if parts.power = FloatParts.beyondNumbers then
    if parts.fraction = 0 then sign ++ "inf".toList else "nan".toList
  else if parts.power = 0 then
    if parts.fraction = 0 then sign ++ "0.0".toList
    else sign ++ Binary.text ⟨parts.fraction, 1 - (FloatParts.bias : Int), false⟩
  else
    sign ++ Binary.text ⟨FloatParts.leadingBit + parts.fraction,
      (parts.power : Int) - FloatParts.bias, parts.fraction == 0 && 1 < parts.power⟩

end FormulaRepair.Decimal

/-! # What a binary number is made of

A number is stored as a sign, a power of two, and a fraction of 52 bits. A number of the ordinary
kind has one more bit in front of its fraction, which is not stored.
-/

namespace FormulaRepair

/-- The stored parts of a binary number. -/
structure FloatParts where
  negative : Bool
  power : Nat
  fraction : Nat
deriving DecidableEq, Repr

namespace FloatParts

/-- The weight of the bit in front of the fraction. -/
def leadingBit : Nat := Nat.pow 2 52

/-- The power that marks infinity and what is no number. -/
def beyondNumbers : Nat := 2047

/-- A stored power is this much more than the power of two that the last bit of the fraction weighs. -/
def bias : Nat := 1075

/-- The parts of a number. -/
def ofFloat (number : Float) : FloatParts :=
  let bits : Nat := number.toBits.toNat
  { negative := bits / Nat.pow 2 63 == 1
    power := bits / leadingBit % Nat.pow 2 11
    fraction := bits % leadingBit }

/-- The size of an ordinary number without what follows the point. -/
def wholeSize (parts : FloatParts) : Nat :=
  let mantissa := leadingBit + parts.fraction
  if parts.power < bias then mantissa / Nat.pow 2 (bias - parts.power)
  else mantissa * Nat.pow 2 (parts.power - bias)

end FloatParts

end FormulaRepair

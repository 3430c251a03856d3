import FormulaRepair.Data

/-! # The order of untyped data

Numbers come in the order of their exact sizes, however they are stored, texts by their characters,
and lists by the first items that differ. Values of other kinds, and values of different kinds, have
no order, but they may still be the same: records are when they have the same fields, in whatever
order. Data can be sorted only when every two values of it have an order.
-/

namespace FormulaRepair

/-- The exact value of a finite number, as a whole number over a power of two. -/
def FloatParts.quotient (parts : FloatParts) : Int × Nat :=
  let power := max 1 parts.power
  let mantissa := if parts.power = 0 then parts.fraction else leadingBit + parts.fraction
  let size : Int := mantissa * Nat.pow 2 (power - bias)
  (if parts.negative then -size else size, Nat.pow 2 (bias - power))

namespace Data

/-- Is one quotient less than another? -/
def isLessQuotient (first second : Int × Nat) : Bool :=
  first.1 * second.2 < second.1 * first.2

/-- Is a whole number less than a decimal one? -/
def isWholeLess (whole : Int) (decimal : Float) : Bool :=
  if decimal.isFinite then isLessQuotient (whole, 1) (FloatParts.ofFloat decimal).quotient
  else 0 < decimal

/-- Is a decimal number less than a whole one? -/
def isDecimalLess (decimal : Float) (whole : Int) : Bool :=
  if decimal.isFinite then isLessQuotient (FloatParts.ofFloat decimal).quotient (whole, 1)
  else decimal < 0

/-- The whole number that a value is stored as; truth values count as zero and one. -/
def storedWhole? : Data → Option Int
  | bool value => some (if value then 1 else 0)
  | int value => some value
  | _ => none

/-- Is one number less than another? There is no answer for what is no number. -/
def isLess? (first second : Data) : Option Bool :=
  match first, second with
  | float first, float second => some (first < second)
  | float first, second => second.storedWhole?.map (isDecimalLess first)
  | first, float second => first.storedWhole?.map (isWholeLess · second)
  | first, second => do return (← first.storedWhole?) < (← second.storedWhole?)

/-- Is a decimal number of the size of a whole one? -/
def isOfSize (decimal : Float) (whole : Int) : Bool :=
  let (size, unit) := (FloatParts.ofFloat decimal).quotient
  decimal.isFinite && size == whole * unit

/-- Are two values numbers of the same size? A number that is undefined is of no size; decoding gives
only one of them, so that a list finds it to be the same as itself. -/
def isSameNumber (first second : Data) : Bool :=
  match first, second with
  | float first, float second => first == second || first.isNaN && second.isNaN
  | float decimal, other | other, float decimal => other.storedWhole?.any (isOfSize decimal)
  | first, second => first.storedWhole?.isSome && first.storedWhole? == second.storedWhole?

mutual

/-- Are two values the same? -/
def isSame : Data → Data → Bool
  | null, null => true
  | text first, text second => first == second
  | list first, list second => areSame first second
  | record first, record second => first.length == second.length && haveFieldsOf first second
  | first, second => isSameNumber first second

/-- Are two lists of values the same? -/
def areSame : List Data → List Data → Bool
  | [], [] => true
  | first :: firsts, second :: seconds => isSame first second && areSame firsts seconds
  | _, _ => false

/-- Are all of these fields among the other ones, with the same values? -/
def haveFieldsOf : List (Text × Data) → List (Text × Data) → Bool
  | [], _ => true
  | (name, first) :: rest, fields =>
      (match (record fields).field? name with
        | some second => isSame first second
        | none => false) && haveFieldsOf rest fields

end

mutual

/-- Does a value come before another one? There is no answer for values without an order. -/
def isBefore? : Data → Data → Option Bool
  | text first, text second => some (Text.isBefore first second)
  | list first, list second => areBefore? first second
  | first, second => isLess? first second

/-- Does a list come before another one? The first items that differ decide; a list comes before its
continuations. -/
def areBefore? : List Data → List Data → Option Bool
  | [], [] => some false
  | [], _ :: _ => some true
  | _ :: _, [] => some false
  | first :: firsts, second :: seconds =>
      if isSame first second then areBefore? firsts seconds else isBefore? first second

end

/-- Does every value of a list have an order with every other one? -/
def areOrdered (items : List Data) : Bool :=
  items.all fun first => items.all fun second => (isBefore? first second).isSome

/-- Values in order, when they have one. A single value needs none. -/
def sort? (items : List Data) : Option (List Data) :=
  if items.length ≤ 1 then some items
  else if areOrdered items then
    some (items.mergeSort fun first second => isBefore? second first == some false)
  else none

end Data

end FormulaRepair

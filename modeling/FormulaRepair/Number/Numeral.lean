import FormulaRepair.Text.Blank
import FormulaRepair.Text.Digit
import FormulaRepair.Text.Quoted

/-! # Numerals

Reading whole and decimal numbers as people type them: with blanks around, with a sign, with digits
of any script, and with single underscores between digits. Decimal numbers also have an exponent,
and names for infinity and for the result of an undefined operation.
-/

namespace FormulaRepair.Numeral

/-- Why a text is no numeral. -/
inductive Problem
  | notWhole (text : Text)
  | notDecimal (text : Text)
  | tooManyDigits (count : Nat)
deriving DecidableEq, Repr, Inhabited

/-- A whole number may be written with this many digits. -/
def digitLimit : Nat := 4300

/-- At most this many characters of an offending text are shown for a whole number. -/
def shownLimit : Nat := 200

/-- The message for a text that is no numeral. -/
def Problem.message : Problem → Text
  | notWhole text =>
      "invalid literal for int() with base 10: ".toList ++ text.quoted.take shownLimit
  | notDecimal text => "could not convert string to float: ".toList ++ text.quoted
  | tooManyDigits count =>
      "Exceeds the limit (4300 digits) for integer string conversion: value has ".toList ++
        Text.ofNat count ++
        " digits; use sys.set_int_max_str_digits() to increase the limit".toList

/-- Blanks around a numeral: all but the control characters that separate fields and records. -/
def isBlankAround (c : Char) : Bool :=
  isBlank c && !(0x1c ≤ c.toNat && c.toNat ≤ 0x1f)

/-- The text without the blanks around it. -/
def stripAround (text : Text) : Text :=
  ((text.dropWhile isBlankAround).reverse.dropWhile isBlankAround).reverse

/-- A digit of any script as the digit `0` to `9` of its value, and any other character as it is. -/
def plainDigit (c : Char) : Char :=
  match digitValue? c with
  | some value => Char.ofNat ('0'.toNat + value)
  | none => c

/-- A sign and what follows it: `true` for minus. -/
def takeSign : Text → Bool × Text
  | '-' :: rest => (true, rest)
  | '+' :: rest => (false, rest)
  | text => (false, text)

/-- The text without its underscores, each of which must stand between two digits. -/
def dropUnderscores? (previous : Char) : Text → Option Text
  | [] => if previous = '_' then none else some []
  | c :: rest =>
      if c = '_' then
        if previous.isDigit then dropUnderscores? c rest else none
      else if previous = '_' ∧ !c.isDigit then none
      else (dropUnderscores? c rest).map (c :: ·)

/-- The value of a text of the digits `0` to `9`. -/
def digitsValue (digits : Text) : Nat :=
  digits.foldl (fun value c => value * 10 + (c.toNat - '0'.toNat)) 0

/-- Can the character be part of a whole number, behind its sign? -/
def isWholePart (c : Char) : Bool := c.isDigit || c == '_'

/-- Read a whole number. The digits in front are counted before it is looked at what follows them. -/
def whole? (text : Text) : Except Problem Int :=
  let (negative, body) := takeSign ((stripAround text).map plainDigit)
  match dropUnderscores? ' ' (body.takeWhile isWholePart) with
  | none => .error (.notWhole text)
  | some digits =>
      if digitLimit < digits.length then .error (.tooManyDigits digits.length)
      else if digits.isEmpty || !(body.dropWhile isWholePart).isEmpty then .error (.notWhole text)
      else .ok (if negative then -(digitsValue digits : Int) else digitsValue digits)

/-- The parts of a decimal number: its digits without the point, and the power of ten that they are
to be multiplied with. -/
structure Scientific where
  digits : Text
  power : Int
deriving Repr

/-- Read the power of ten behind the digits; there may be none. -/
def readPower? : Text → Option Int
  | [] => some 0
  | mark :: rest =>
      if mark = 'e' ∨ mark = 'E' then
        let (negative, digits) := takeSign rest
        if digits.isEmpty || !digits.all Char.isDigit then none
        else some (if negative then -(digitsValue digits : Int) else digitsValue digits)
      else none

/-- Read digits with at most one point among them and a power of ten behind them. -/
def readScientific? (text : Text) : Option Scientific :=
  let before := text.takeWhile Char.isDigit
  let rest := text.dropWhile Char.isDigit
  let (after, rest) := match rest with
    | '.' :: rest => (rest.takeWhile Char.isDigit, rest.dropWhile Char.isDigit)
    | rest => ([], rest)
  if before.isEmpty && after.isEmpty then none
  else (readPower? rest).map fun power => ⟨before ++ after, power - after.length⟩

/-- The number nearest to digits times a power of ten. Powers far beyond the range of numbers are
settled without computing them. -/
def Scientific.toFloat (value : Scientific) : Float :=
  let digits := value.digits.dropWhile (· == '0')
  let size := digits.length + value.power
  if digits.isEmpty || size < -400 then 0.0
  else if 400 < size then Float.ofScientific 1 false 400
  else Float.ofScientific (digitsValue digits) (value.power < 0) value.power.natAbs

/-- Names of numbers beyond the decimals. -/
def namedFloat? (name : Text) : Option Float :=
  let name := name.map Char.toLower
  if name = "inf".toList ∨ name = "infinity".toList then some (1.0 / 0.0)
  else if name = "nan".toList then some (0.0 / 0.0)
  else none

/-- Read a decimal number. -/
def decimal? (text : Text) : Except Problem Float :=
  let body := dropUnderscores? ' ' ((stripAround text).map plainDigit)
  let found := body.bind fun body =>
    let (negative, size) := takeSign body
    let size := (namedFloat? size).orElse fun _ => (readScientific? size).map Scientific.toFloat
    size.map fun size => if negative then -size else size
  match found with
  | some number => .ok number
  | none => .error (.notDecimal text)

end FormulaRepair.Numeral

import FormulaRepair.Number.Numeral
import FormulaRepair.Number.Shortest

/-! # Untyped data

Values whose shape nobody has promised: the answers of a provider, and settings that a caller hands
over as they are. A value can be asked whether it counts as empty, for its whole number, and for the
text by which it is named in an error message.
-/

namespace FormulaRepair

/-- A value of unknown shape. -/
inductive Data
  | null
  | bool (value : Bool)
  | int (value : Int)
  | float (value : Float)
  | text (value : Text)
  | list (items : List Data)
  | record (fields : List (Text × Data))
deriving Repr, Inhabited

namespace Data

/-- Everything counts as filled but nothing, false, zero, and what has no parts. -/
def isFilled : Data → Bool
  | null => false
  | bool value => value
  | int value => value != 0
  | float value => value != 0.0
  | text value => !value.isEmpty
  | list items => !items.isEmpty
  | record fields => !fields.isEmpty

/-- The field of a record. -/
def field? (name : Text) : Data → Option Data
  | record fields => (fields.find? (·.1 == name)).map (·.2)
  | _ => none

/-- The text of a value that is one. -/
def text? : Data → Option Text
  | text value => some value
  | _ => none

/-- The word for the kind of a value in an error message. -/
def kindName : Data → Text
  | null => "NoneType".toList
  | bool _ => "bool".toList
  | int _ => "int".toList
  | float _ => "float".toList
  | text _ => "str".toList
  | list _ => "list".toList
  | record _ => "dict".toList

/-- How a record is written, given the names of its fields and their values as they are written. -/
abbrev RecordForm := List (Text × Text) → Text

/-- A record in braces, with quoted names. -/
def inBraces : RecordForm := fun fields =>
  let inside := fields.map fun (name, value) => name.quoted ++ [':', ' '] ++ value
  '\x7b' :: Text.join [',', ' '] inside ++ ['\x7d']

mutual

/-- A value as it is named in an error message, with records in the given form. -/
def writtenIn (form : RecordForm) : Data → Text
  | null => "None".toList
  | bool true => "True".toList
  | bool false => "False".toList
  | int value => Text.ofInt value
  | float value => Decimal.ofFloat value
  | text value => value.quoted
  | list items => '[' :: Text.join [',', ' '] (writtenItems form items) ++ [']']
  | record fields => form (writtenFields form fields)

/-- Values as they are named in an error message. -/
def writtenItems (form : RecordForm) : List Data → List Text
  | [] => []
  | first :: rest => writtenIn form first :: writtenItems form rest

/-- Fields with their values as they are named in an error message. -/
def writtenFields (form : RecordForm) : List (Text × Data) → List (Text × Text)
  | [] => []
  | (name, value) :: rest => (name, writtenIn form value) :: writtenFields form rest

end

/-- A value as it is named in an error message. -/
def written (value : Data) : Text := value.writtenIn inBraces

/-- A value as it is printed, with records in the given form: a text as it stands, and any other value
as it is named. -/
def shownIn (form : RecordForm) : Data → Text
  | text value => value
  | other => other.writtenIn form

/-- A value as it is printed: a text as it stands, and any other value as it is named. -/
def shown (value : Data) : Text := value.shownIn inBraces

/-- Why a value has no whole number. -/
inductive WholeProblem
  | numeral (problem : Numeral.Problem)
  | undefinedNumber
  | infiniteNumber
  | noNumber (kind : Text)
deriving DecidableEq, Repr, Inhabited

/-- The message for a value without a whole number. -/
def WholeProblem.message : WholeProblem → Text
  | numeral problem => problem.message
  | undefinedNumber => "cannot convert float NaN to integer".toList
  | infiniteNumber => "cannot convert float infinity to integer".toList
  | noNumber kind =>
      "int() argument must be a string, a bytes-like object or a real number, not '".toList ++
        kind ++ ['\'']

/-- A finite number without its fraction. -/
def truncate (number : Float) : Int :=
  let parts := FloatParts.ofFloat number
  if parts.negative then -(parts.wholeSize : Int) else parts.wholeSize

/-- The whole number of a value: fractions are cut off, and texts are read as numerals. -/
def whole? : Data → Except WholeProblem Int
  | int value => .ok value
  | bool value => .ok (if value then 1 else 0)
  | float value =>
      if value.isNaN then .error .undefinedNumber
      else if value.isInf then .error .infiniteNumber
      else .ok (truncate value)
  | text value => (Numeral.whole? value).mapError .numeral
  | other => .error (.noNumber other.kindName)

end Data

end FormulaRepair

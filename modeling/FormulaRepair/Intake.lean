import FormulaRepair.Data
import FormulaRepair.Repair

/-! # Records from untyped data

Formulas, fixes, verdicts, requests and replies can be handed in as untyped records. Reading one
yields the record, or the names of all fields that are missing or do not fit, in the order in which
the record lists its fields. Numbers and truth values may also be given in other ways of writing
them.
-/

namespace FormulaRepair

/-- A reading of untyped data that collects the names of the fields at fault. -/
def Intake (α : Type) := Data → Except (List Text) α

namespace Intake

/-- Nothing has to be read. -/
protected def pure {α : Type} (value : α) : Intake α := fun _ => .ok value

/-- Read two parts; the fields at fault in both are told. -/
protected def seq {α β : Type} (first : Intake (α → β)) (second : Intake α) : Intake β := fun data =>
  match first data, second data with
  | .ok make, .ok value => .ok (make value)
  | .error faults, .ok _ => .error faults
  | .ok _, .error faults => .error faults
  | .error faults, .error more => .error (faults ++ more)

instance : Applicative Intake where
  pure := Intake.pure
  seq first second := Intake.seq first (second ())

/-- A field that must be there. -/
def required {α : Type} (name : String) (read : Data → Option α) : Intake α := fun data =>
  match (data.field? name.toList).bind read with
  | some value => .ok value
  | none => .error [name.toList]

/-- A field that may be left out. -/
def withDefault {α : Type} (name : String) (default : α) (read : Data → Option α) : Intake α :=
  fun data =>
    match data.field? name.toList with
    | none => .ok default
    | some found =>
        match read found with
        | some value => .ok value
        | none => .error [name.toList]

/-- A text, or nothing. -/
def optionalText? : Data → Option (Option Text)
  | .null => some none
  | .text text => some (some text)
  | _ => none

/-- A numeral without a plus sign in front, which a minus sign must not follow. -/
def withoutPlus? : Text → Option Text
  | '+' :: '-' :: _ => none
  | '+' :: rest => some rest
  | text => some text

/-- Whether a numeral has a minus sign in front, and what follows the sign. -/
def splitMinus : Text → Bool × Text
  | '-' :: rest => (true, rest)
  | text => (false, text)

/-- A numeral from the first character on that is no zero in front, given the one before it. Nothing
but underscores may stand among the zeros, and the last zero stays when nothing else is left or when
a point follows. -/
def afterZeros? (previous : Char) : Text → Option Text
  | [] => some [previous]
  | next :: rest =>
      if next = '0' ∨ next = '_' then afterZeros? next rest
      else if next.isDigit ∨ next = '-' then some (next :: rest)
      else if next = '.' then some (previous :: next :: rest)
      else none

/-- A numeral without zeros in front. -/
def withoutZeros? : Text → Option Text
  | [] => none
  | first :: rest =>
      if first = '0' then afterZeros? first rest
      else if first.isDigit ∨ first = '-' then some (first :: rest)
      else none

/-- The part of a numeral in front of a point that nothing but zeros follow. -/
def withoutZeroFraction (numeral : Text) : Text :=
  match Text.splitFirst? ['.'] numeral with
  | some (before, after) => if !after.isEmpty && after.all (· == '0') then before else numeral
  | none => numeral

/-- A numeral without underscores, none of which may stand at an end or beside another one. -/
def withoutUnderscores (numeral : Text) : Text :=
  if numeral.head? == some '_' || numeral.getLast? == some '_' || Text.contains ['_', '_'] numeral
  then numeral
  else numeral.filter (· != '_')

/-- A whole number in plain digits, at most as many as whole numbers may be written with. A zero in
front stands alone. -/
def plainWhole? (numeral : Text) : Option Int :=
  let (negative, digits) := splitMinus numeral
  if digits.isEmpty || !digits.all Char.isDigit || Numeral.digitLimit < digits.length then none
  else if digits.head? == some '0' && digits != ['0'] then none
  else some (if negative then -(Numeral.digitsValue digits : Int) else Numeral.digitsValue digits)

/-- A whole number in digits `0` to `9`, with blanks around it, a sign, zeros in front, and single
underscores between digits; nothing but zeros may follow a point. -/
def wholeText? (text : Text) : Option Int := do
  let numeral ← withoutPlus? (Numeral.stripAround text)
  let (negative, size) := splitMinus numeral
  let size := withoutUnderscores (withoutZeroFraction (← withoutZeros? size))
  plainWhole? (if negative then '-' :: size else size)

/-- Decimal numbers stand for whole ones only below this size. -/
def wholeLimit : Float := 9223372036854775808

/-- A whole number, also as a decimal number without a fraction, a truth value or a text. -/
def whole? : Data → Option Int
  | .int value => some value
  | .bool value => some (if value then 1 else 0)
  | .float value =>
      if value.floor == value && -wholeLimit < value && value < wholeLimit then
        some (Data.truncate value)
      else none
  | .text text => wholeText? text
  | _ => none

/-- The words for true. -/
def trueWords : List Text := ["1", "on", "t", "true", "y", "yes"].map String.toList

/-- The words for false. -/
def falseWords : List Text := ["0", "off", "f", "false", "n", "no"].map String.toList

/-- A truth value, also as zero or one or as a word. -/
def truth? : Data → Option Bool
  | .bool value => some value
  | .int 0 => some false
  | .int 1 => some true
  | .float value => if value == 0.0 then some false else if value == 1.0 then some true else none
  | .text text =>
      let word := text.map Char.toLower
      if trueWords.contains word then some true
      else if falseWords.contains word then some false
      else none
  | _ => none

/-- Read a formula. -/
def formula : Intake Formula :=
  Formula.mk <$> required "id" Data.text? <*> required "raw" Data.text?
    <*> required "raw_with_delimiters" Data.text?
    <*> required "delimiter_type" (fun data => data.text?.bind Delimiter.ofName?)
    <*> required "start_offset" whole? <*> required "end_offset" whole?
    <*> required "line_number" whole? <*> withDefault "is_valid" true truth?
    <*> withDefault "error_message" none optionalText?

/-- Read a fix. -/
def fix : Intake Fix :=
  Fix.mk <$> required "formula_id" Data.text? <*> required "original_raw" Data.text?
    <*> required "fixed_raw" Data.text? <*> required "fixed_with_delimiters" Data.text?
    <*> required "fixed_is_valid" truth? <*> withDefault "fixed_error_message" none optionalText?
    <*> withDefault "status" .pending (fun data => data.text?.bind FixStatus.ofName?)
    <*> withDefault "provenance" [] Data.text?

/-- Read a verdict. -/
def verdict : Intake Verdict :=
  Verdict.mk <$> required "success" truth? <*> withDefault "error_message" none optionalText?
    <*> withDefault "html" none optionalText?

/-- Read a request. -/
def request : Intake RepairRequest :=
  RepairRequest.mk <$> required "original_latex" Data.text? <*> required "error_message" Data.text?
    <*> withDefault "context" [] Data.text? <*> required "delimiter_type" Data.text?

/-- Read a reply. -/
def reply : Intake RepairReply :=
  RepairReply.mk <$> required "fixed_latex" Data.text? <*> required "model" Data.text?

end Intake

/-- A value that names nothing of the wanted kind. -/
structure UnknownName where
  value : Data
  kind : Text
deriving Repr, Inhabited

/-- The message for a value that names nothing of the wanted kind. -/
def UnknownName.message (problem : UnknownName) : Text :=
  problem.value.written ++ " is not a valid ".toList ++ problem.kind

/-- The delimiter that a value names. -/
def Delimiter.ofData (value : Data) : Except UnknownName Delimiter :=
  match value.text?.bind ofName? with
  | some delimiter => .ok delimiter
  | none => .error ⟨value, "DelimiterType".toList⟩

/-- The status that a value names. -/
def FixStatus.ofData (value : Data) : Except UnknownName FixStatus :=
  match value.text?.bind ofName? with
  | some status => .ok status
  | none => .error ⟨value, "FixStatus".toList⟩

end FormulaRepair

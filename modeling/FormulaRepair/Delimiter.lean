import FormulaRepair.Text.Basic

/-! # Formula delimiters

The four pairs of marks that set a formula apart from prose, with wrapping and unwrapping. The
dollar marks open and close alike; the bracket marks differ.
-/

namespace FormulaRepair

/-- The pair of marks around a formula. -/
inductive Delimiter
  | inlineDollar
  | blockDollar
  | inlineParen
  | blockBracket
deriving DecidableEq, Repr, Inhabited

namespace Delimiter

/-- All delimiters, in the order in which they are listed for a reader. -/
def all : List Delimiter := [inlineDollar, blockDollar, inlineParen, blockBracket]

/-- The name under which a delimiter is written down. -/
def name : Delimiter → Text
  | inlineDollar => "inline-dollar".toList
  | blockDollar => "block-dollar".toList
  | inlineParen => "inline-paren".toList
  | blockBracket => "block-bracket".toList

/-- The delimiter of a name. -/
def ofName? (wanted : Text) : Option Delimiter := all.find? (·.name == wanted)

/-- The mark in front of the formula. -/
def opener : Delimiter → Text
  | inlineDollar => ['$']
  | blockDollar => ['$', '$']
  | inlineParen => ['\\', '(']
  | blockBracket => ['\\', '[']

/-- The mark behind the formula. -/
def closer : Delimiter → Text
  | inlineDollar => ['$']
  | blockDollar => ['$', '$']
  | inlineParen => ['\\', ')']
  | blockBracket => ['\\', ']']

/-- Block delimiters typeset on a line of their own, inline ones do not. -/
def isDisplay : Delimiter → Bool
  | blockDollar | blockBracket => true
  | inlineDollar | inlineParen => false

/-- A formula between its marks. -/
def wrap (delimiter : Delimiter) (latex : Text) : Text :=
  delimiter.opener ++ latex ++ delimiter.closer

/-- The text between one pair of marks; a text that is not wrapped in them stays as it is. -/
def unwrap (delimiter : Delimiter) (text : Text) : Text :=
  match Text.dropPrefix? delimiter.opener text with
  | some inner => (Text.dropSuffix? delimiter.closer inner).getD text
  | none => text

@[simp] theorem length_wrap (delimiter : Delimiter) (latex : Text) :
    (delimiter.wrap latex).length =
      delimiter.opener.length + latex.length + delimiter.closer.length := by
  simp [wrap]; omega

theorem wrap_ne_nil (delimiter : Delimiter) (latex : Text) : delimiter.wrap latex ≠ [] := by
  cases delimiter <;> simp [wrap, opener]

end Delimiter

end FormulaRepair

import FormulaRepair.Text.Blank
import FormulaRepair.Text.Word

/-! # Commands that a typesetter does not know

A typesetter writes a command that it does not know back as it stands, as the content of a token
element. Finding such a command in the markup tells that the formula did not typeset.
-/

namespace FormulaRepair.UnknownCommand

/-- The names of token elements. -/
def tokenNames : List Text := [['m', 'i'], ['m', 'o'], ['m', 'n'], ['m', 't', 'e', 'x', 't']]

/-- Does a word end in front of this text? -/
def atWordEnd : Text → Bool
  | [] => true
  | next :: _ => !isWord next

/-- What follows the name of a token element. -/
def afterTokenName? (text : Text) : Option Text :=
  tokenNames.findSome? fun name => (Text.dropPrefix? name text).filter atWordEnd

/-- An ASCII letter. -/
def isLetter (c : Char) : Bool := c.isAlpha

/-- The command with which an element's content begins, given what follows its opening bracket. -/
def commandAfterOpening? (text : Text) : Option Text :=
  match afterTokenName? text with
  | none => none
  | some rest =>
      match rest.dropWhile (· != '>') with
      | '>' :: content =>
          match Text.stripLeft content with
          | '\\' :: command =>
              let name := command.takeWhile isLetter
              if name.isEmpty then none else some name
          | _ => none
      | _ => none

/-- The name of the first unknown command in a piece of markup. -/
def find? : Text → Option Text
  | [] => none
  | first :: rest =>
      match if first = '<' then commandAfterOpening? rest else none with
      | some name => some name
      | none => find? rest

end FormulaRepair.UnknownCommand

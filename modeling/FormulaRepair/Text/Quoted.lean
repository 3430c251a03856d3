import FormulaRepair.Text.Printable

/-! # Quoted texts

A text in quotes, written so that every character can be seen. Single quotes are preferred; double
quotes are used when they save escaping. Characters that do not show as themselves are written as
their code point in hexadecimal digits.
-/

namespace FormulaRepair.Text

/-- The lower-case hexadecimal digits of a number, padded with zeros to a width. -/
def hex (width number : Nat) : Text :=
  let digits := Nat.toDigits 16 number
  List.replicate (width - digits.length) '0' ++ digits

/-- A character as it appears between the given quotes. -/
def quoteChar (quote : Char) (c : Char) : Text :=
  if c == quote || c == '\\' then ['\\', c]
  else if c == '\n' then ['\\', 'n']
  else if c == '\r' then ['\\', 'r']
  else if c == '\t' then ['\\', 't']
  else if isPrintable c then [c]
  else if c.toNat ≤ 0xff then '\\' :: 'x' :: hex 2 c.toNat
  else if c.toNat ≤ 0xffff then '\\' :: 'u' :: hex 4 c.toNat
  else '\\' :: 'U' :: hex 8 c.toNat

/-- The quotes for a text: single ones, unless it holds single quotes and no double ones. -/
def quoteFor (text : Text) : Char :=
  if text.elem '\'' && !text.elem '"' then '"' else '\''

/-- The text in quotes. -/
def quoted (text : Text) : Text :=
  let quote := quoteFor text
  quote :: text.flatMap (quoteChar quote) ++ [quote]

end FormulaRepair.Text

import FormulaRepair.Text.Basic

/-! # The name of a repaired file

The repaired copy of a file stands beside it, with a mark in its name in front of the extension, or
at the end when there is none. A dot at the start of a name begins no extension.
-/

namespace FormulaRepair.ExportPath

/-- What a repaired file has in its name. -/
def mark : Text := ['_', 'f', 'i', 'x', 'e', 'd']

/-- Does the character separate the components of a path? -/
def isSeparator (c : Char) : Bool := c == '/' || c == '\\'

/-- The last component of a path. -/
def nameOf (path : Text) : Text := (path.reverse.takeWhile (!isSeparator ·)).reverse

/-- A path up to and including its last separator. -/
def directoryOf (path : Text) : Text := (path.reverse.dropWhile (!isSeparator ·)).reverse

/-- The name of the repaired file for a name without directories. -/
def markName (name : Text) : Text :=
  match Text.lastIndex? '.' name with
  | some (place + 1) => name.take (place + 1) ++ mark ++ name.drop (place + 1)
  | _ => name ++ mark

/-- The path of the repaired file. -/
def ofPath (path : Text) : Text := directoryOf path ++ markName (nameOf path)

end FormulaRepair.ExportPath

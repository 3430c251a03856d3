import FormulaRepair.Text.Basic

/-! # Paths

A place in the file system is the list of the names on the way to it from the root. A path as it is
typed is followed from the current directory, or from the root when it begins with a slash; one that
begins with a tilde is followed from the home directory. Dots are resolved on the way.
-/

namespace FormulaRepair

/-- A place in the file system: the names on the way to it from the root. -/
abbrev Place := List Text

namespace Place

/-- A place written as a path. -/
def path (place : Place) : Text :=
  if place.isEmpty then ['/'] else place.flatMap ('/' :: ·)

/-- The directory of a place; the root is its own. -/
def parent (place : Place) : Place := place.dropLast

/-- The places on the way from the root to a place, both included. -/
def prefixes (place : Place) : List Place := (List.range (place.length + 1)).map place.take

end Place

namespace Path

/-- The pieces of a text between the occurrences of a character. -/
def splitOn (separator : Char) : Text → List Text
  | [] => [[]]
  | first :: rest =>
      if first = separator then [] :: splitOn separator rest
      else
        match splitOn separator rest with
        | [] => [[first]]
        | piece :: pieces => (first :: piece) :: pieces

/-- The names in a path; empty names and single dots stand for nothing. -/
def names (path : Text) : List Text :=
  (splitOn '/' path).filter fun name => !name.isEmpty && name != ['.']

/-- Follow names from a place; two dots lead one directory up. -/
def follow (place : Place) : List Text → Place
  | [] => place
  | name :: names => follow (if name = ['.', '.'] then place.parent else place ++ [name]) names

/-- Why a path leads to no place: the home directory of somebody else is not known, and a null
character is part of no name. -/
inductive Problem
  | unknownHome
  | nullCharacter
deriving DecidableEq, Repr, Inhabited

/-- The message for a path that leads to no place. -/
def Problem.message : Problem → Text
  | unknownHome => "Could not determine home directory.".toList
  | nullCharacter => "embedded null byte".toList

/-- The place that a path begins at, and the names that lead on from there, given the current and the
home directory. -/
def start (current home : Place) (path : Text) : Except Problem (Place × List Text) :=
  match path with
  | '/' :: _ => .ok ([], names path)
  | _ =>
      match names path with
      | ['~'] :: rest => .ok (home, rest)
      | ('~' :: user) :: _ => .error (if user.elem '\x00' then .nullCharacter else .unknownHome)
      | names => .ok (current, names)

/-- The place that a path leads to, given the current and the home directory. -/
def resolve (current home : Place) (path : Text) : Except Problem Place := do
  let (place, names) ← start current home path
  if path.elem '\x00' then .error .nullCharacter else .ok (follow place names)

end Path

end FormulaRepair

/-! # Texts as lists of characters

A text is the list of its characters, so that an offset is a position in the list and a span is a
piece of it. Searching always answers with what lies before and after the first occurrence; the
laws below say that nothing is lost by a search and that no earlier occurrence was passed over.
-/

namespace FormulaRepair

/-- A text is the list of its characters; all offsets count characters. -/
abbrev Text := List Char

namespace Text

/-- The decimal digits of a natural number. -/
def ofNat (number : Nat) : Text := Nat.toDigits 10 number

/-- The decimal digits of an integer, with a minus sign in front of a negative one. -/
def ofInt : Int → Text
  | .ofNat number => ofNat number
  | .negSucc number => '-' :: ofNat (number + 1)

/-- What follows `mark` when the text begins with it. -/
def dropPrefix? (mark : Text) (text : Text) : Option Text :=
  match mark, text with
  | [], rest => some rest
  | _ :: _, [] => none
  | wanted :: mark, found :: rest => if wanted = found then dropPrefix? mark rest else none

theorem dropPrefix?_eq_some_iff {mark text rest : Text} :
    dropPrefix? mark text = some rest ↔ text = mark ++ rest := by
  induction mark generalizing text with
  | nil => simp [dropPrefix?, eq_comm]
  | cons wanted mark ih =>
    cases text with
    | nil => simp [dropPrefix?]
    | cons found text =>
      by_cases same : wanted = found
      · simp [dropPrefix?, same, ih]
      · simp [dropPrefix?, same, Ne.symm (Ne.intro same)]

/-- What precedes `mark` when the text ends with it. -/
def dropSuffix? (mark : Text) (text : Text) : Option Text :=
  (dropPrefix? mark.reverse text.reverse).map List.reverse

/-- Split a text around the first occurrence of `mark`. -/
def splitFirst? (mark : Text) : Text → Option (Text × Text)
  | [] => (dropPrefix? mark []).map fun rest => ([], rest)
  | first :: rest =>
      match dropPrefix? mark (first :: rest) with
      | some after => some ([], after)
      | none => (splitFirst? mark rest).map fun (before, after) => (first :: before, after)

/-- A split loses nothing: the text is what lies before, the mark, and what lies after. -/
theorem eq_append_of_splitFirst? {mark text before after : Text}
    (found : splitFirst? mark text = some (before, after)) : text = before ++ mark ++ after := by
  induction text generalizing before with
  | nil =>
    simp only [splitFirst?, Option.map_eq_some_iff, Prod.mk.injEq] at found
    obtain ⟨rest, here, rfl, rfl⟩ := found
    simpa using dropPrefix?_eq_some_iff.mp here
  | cons first text ih =>
    rw [splitFirst?] at found
    split at found
    · next rest here =>
      simp only [Option.some.injEq, Prod.mk.injEq] at found
      obtain ⟨rfl, rfl⟩ := found
      simpa using dropPrefix?_eq_some_iff.mp here
    · simp only [Option.map_eq_some_iff, Prod.mk.injEq] at found
      obtain ⟨⟨inner, tail⟩, later, rfl, rfl⟩ := found
      simp [ih later]

/-- Does a text come before another one? The first characters that differ decide by their codes; a
text comes before its continuations. -/
def isBefore (first second : Text) : Bool := first.lex second fun a b => a.toNat < b.toNat

/-- Does `mark` occur anywhere in the text? -/
def contains (mark text : Text) : Bool := (splitFirst? mark text).isSome

/-- The place of the last occurrence of a character. -/
def lastIndex? (wanted : Char) (text : Text) : Option Nat :=
  (text.reverse.idxOf? wanted).map fun back => text.length - 1 - back

/-- Join texts with a separator between neighbours. -/
def join (separator : Text) : List Text → Text
  | [] => []
  | [last] => last
  | first :: second :: rest => first ++ separator ++ join separator (second :: rest)

end Text

end FormulaRepair

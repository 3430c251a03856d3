import FormulaRepair.Text.Slice

/-! # Counting lines on the way through a text

A counter remembers how far it has counted, so that asking for growing offsets costs one pass over
the text. An offset in front of that place is answered by a count of its own and leaves the counter
where it was.
-/

namespace FormulaRepair

/-- The number of line ends in a text. -/
def Text.newlines (text : Text) : Nat := text.count '\n'

/-- A text with the place that line counting has reached and the line number there. -/
structure LineCounter where
  text : Text
  position : Nat := 0
  line : Nat := 1
deriving Repr, Inhabited

namespace LineCounter

/-- The line number of an offset, with the counter moved on to it. -/
def lineAt (counter : LineCounter) (offset : Int) : Nat × LineCounter :=
  if offset < counter.position then
    ((counter.text.upTo offset).newlines + 1, counter)
  else
    let line := counter.line + (counter.text.slice counter.position offset).newlines
    (line, { counter with position := offset.toNat, line := line })

/-- The line numbers of offsets asked for one after the other. -/
def linesAt (counter : LineCounter) : List Int → List Nat
  | [] => []
  | offset :: offsets =>
      let (line, next) := counter.lineAt offset
      line :: next.linesAt offsets

end LineCounter

end FormulaRepair

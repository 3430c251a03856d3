import FormulaRepair.LineCounter
import FormulaRepair.Proofs.Slices

/-! # Line numbers by plain counting

A counter that has counted right up to its place answers every offset as a count from the front of
the text would, and goes on to be right at its new place.
-/

namespace FormulaRepair

@[simp] theorem Text.newlines_append (first second : Text) :
    Text.newlines (first ++ second) = first.newlines + second.newlines := by
  simp [Text.newlines]

/-- The number of the line in which an offset lies. -/
def Text.lineOf (text : Text) (offset : Int) : Nat := (text.upTo offset).newlines + 1

namespace LineCounter

/-- The line kept by a counter is the line of its place. -/
def Exact (counter : LineCounter) : Prop :=
  counter.line = counter.text.lineOf counter.position

theorem exact_start (text : Text) : Exact { text := text } := by
  simp [Exact, Text.lineOf, Text.upTo, Text.newlines, Text.bound]

/-- Lines add up along a text. -/
theorem lineOf_add_newlines_slice {text : Text} {start stop : Int}
    (ordered : Text.bound text.length start ≤ Text.bound text.length stop) :
    text.lineOf start + (text.slice start stop).newlines = text.lineOf stop := by
  rw [Text.lineOf, Text.lineOf, ← Text.upTo_append_slice ordered, Text.newlines_append]
  omega

theorem lineAt_line {counter : LineCounter} (exact : counter.Exact) (offset : Int) :
    (counter.lineAt offset).1 = counter.text.lineOf offset := by
  rw [lineAt]
  split
  · rfl
  · next ahead =>
    rw [exact]
    exact lineOf_add_newlines_slice (Text.bound_mono (by omega) (by omega))

theorem lineAt_text (counter : LineCounter) (offset : Int) :
    (counter.lineAt offset).2.text = counter.text := by
  rw [lineAt]
  split <;> rfl

theorem lineAt_exact {counter : LineCounter} (exact : counter.Exact) (offset : Int) :
    (counter.lineAt offset).2.Exact := by
  have line := lineAt_line exact offset
  rw [lineAt] at line ⊢
  split
  · exact exact
  · next ahead =>
    rw [if_neg ahead] at line
    have place : (offset.toNat : Int) = offset := by omega
    rw [Exact, place]
    exact line

/-- A counter that is right at its place stays so through any offsets, and tells each its own line. -/
theorem linesAt_of_exact {counter : LineCounter} (exact : counter.Exact) (offsets : List Int) :
    counter.linesAt offsets = offsets.map counter.text.lineOf := by
  induction offsets generalizing counter with
  | nil => rfl
  | cons offset offsets ih =>
    have later := ih (lineAt_exact exact offset)
    rw [lineAt_text] at later
    rw [List.map_cons, ← lineAt_line exact offset, ← later]
    rfl

/-- Whatever offsets were asked for before, each one is answered by a plain count of the line ends in
front of it. -/
theorem linesAt_eq_map_newlines (text : Text) (offsets : List Int) :
    linesAt { text := text } offsets =
      offsets.map fun offset => (text.upTo offset).newlines + 1 :=
  linesAt_of_exact (exact_start text) offsets

/-- An offset far behind the end leaves the counter there, and earlier ones are still told right. -/
example : linesAt { text := "a\nb\nc".toList } [2, 9, -1, 0, 4, 3] = [2, 3, 3, 1, 3, 2] := by decide

end LineCounter

end FormulaRepair

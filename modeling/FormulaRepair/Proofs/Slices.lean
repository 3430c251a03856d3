import FormulaRepair.Text.Slice

/-! # Slices of a text that is given in parts

Where a text is put together from parts, the lengths of the parts are its places, and slicing at
these places gives the parts back.
-/

namespace FormulaRepair.Text

theorem upTo_append {before after : Text} {place : Int} (here : (before.length : Int) = place) :
    upTo (before ++ after) place = before := by
  simp [upTo, ← here]

theorem startingAt_append {before after : Text} {place : Int}
    (here : (before.length : Int) = place) : startingAt (before ++ after) place = after := by
  simp [startingAt, ← here]

theorem slice_append (before middle after : Text) :
    slice (before ++ (middle ++ after)) before.length (before ++ middle).length = middle := by
  rw [slice, bound_natCast, bound_natCast]
  simp

/-- Where a place lies in the text, as much of the text lies in front of it. -/
theorem length_upTo (text : Text) {stop : Int} (nonneg : 0 ≤ stop)
    (bounded : stop ≤ text.length) :
    ((text.upTo stop).length : Int) = stop := by
  rw [upTo, List.length_take, bound, if_neg (by omega)]
  omega

theorem bound_mono {length : Nat} {start stop : Int} (nonneg : 0 ≤ start) (ordered : start ≤ stop) :
    bound length start ≤ bound length stop := by
  rw [bound, bound, if_neg (by omega), if_neg (by omega)]
  omega

/-- The text in front of a place goes on with the slice behind it. -/
theorem upTo_append_slice {text : Text} {start stop : Int}
    (ordered : bound text.length start ≤ bound text.length stop) :
    text.upTo start ++ text.slice start stop = text.upTo stop := by
  have split : bound text.length stop =
      bound text.length start + (bound text.length stop - bound text.length start) := by omega
  rw [upTo, upTo, slice, split, List.take_add]
  simp

/-- A slice goes on with the slice behind it. -/
theorem slice_append_slice {text : Text} {start middle stop : Int}
    (first : bound text.length start ≤ bound text.length middle)
    (second : bound text.length middle ≤ bound text.length stop) :
    text.slice start middle ++ text.slice middle stop = text.slice start stop := by
  have whole : text.upTo start ++ (text.slice start middle ++ text.slice middle stop) =
      text.upTo start ++ text.slice start stop := by
    rw [← List.append_assoc, upTo_append_slice first, upTo_append_slice second,
      upTo_append_slice (Nat.le_trans first second)]
  exact List.append_cancel_left whole

theorem upTo_append_startingAt (text : Text) (place : Int) :
    text.upTo place ++ text.startingAt place = text := by
  rw [upTo, startingAt, List.take_append_drop]

end FormulaRepair.Text

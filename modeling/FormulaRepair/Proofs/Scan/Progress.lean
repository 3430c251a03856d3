import FormulaRepair.Proofs.Scan.Places

/-! # Reading gets on and stays in the text

Reading a text by places takes turns, one for each piece and a last one where code is never closed. Each
turn ends behind the place where it began and not behind the end of the text, so that there are no more
turns than characters. Together they take off the pieces of the text, and nothing is looked at outside
of it on the way.
-/

namespace FormulaRepair.Scan

variable {text : Text} {mode : Mode} {place : Nat}

theorem stride_inside (mode : Mode) (inside : place < text.length) :
    Careful text place (stride text mode place)
      ((read? mode (text.drop place)).map (Stride.ofPiece place)) := by
  have whole : text = text.take place ++ text[place] :: text.drop (place + 1) := by
    rw [← List.drop_eq_getElem_cons inside, List.take_append_drop]
  have careful := stride_careful mode whole
  rwa [← List.drop_eq_getElem_cons inside, List.length_take_of_le inside.le] at careful

/-- A piece ends behind its start and inside of the text, and there the rest begins. -/
theorem stop_of_read? {piece : Piece} (found : read? mode (text.drop place) = some piece) :
    place < place + piece.taken.length ∧ place + piece.taken.length ≤ text.length ∧
      text.drop (place + piece.taken.length) = piece.rest ∧
      (text.drop place).take piece.taken.length = piece.taken := by
  have valid := read?_of found
  have positive := List.length_pos_iff.mpr valid.taken_ne_nil
  have lengths := congrArg List.length valid.text_eq
  rw [List.length_drop, List.length_append] at lengths
  refine ⟨by omega, by omega, ?_, ?_⟩
  · rw [← List.drop_drop, valid.text_eq, List.drop_left]
  · rw [valid.text_eq, List.take_left]

/-- Each step gets on, and not beyond the end of the text. -/
theorem stride_bounds {notes notes' : Notes} {taken : Stride} (inside : place < text.length)
    (ran : stride text mode place notes = some (some taken, notes')) :
    place < taken.stop ∧ taken.stop ≤ text.length := by
  obtain ⟨looks, seeks, run, -⟩ := stride_inside mode inside notes
  rw [ran, Option.some.injEq, Prod.mk.injEq] at run
  obtain ⟨piece, found, rfl⟩ := Option.map_eq_some_iff.mp run.1.symm
  obtain ⟨ahead, bounded, -⟩ := stop_of_read? found
  exact ⟨ahead, bounded⟩

/-- One turn of reading by places: where it began, what it noted, and how far it got. -/
structure Iteration where
  place : Nat
  notes : Notes
  stride : Option Stride
deriving DecidableEq, Repr

/-- All turns from a place on, up to the end of the text or to code that is never closed. -/
def walk (text : Text) (mode : Mode) (place : Nat) : Option (List Iteration) :=
  if _inside : place < text.length then
    match _ran : stride text mode place {} with
    | none => none
    | some (none, notes) => some [⟨place, notes, none⟩]
    | some (some taken, notes) =>
        (walk text taken.next taken.stop).map (⟨place, notes, some taken⟩ :: ·)
  else some []
termination_by text.length - place
decreasing_by
  have bounds := stride_bounds _inside _ran
  omega

private theorem walk_of_le (ended : text.length ≤ place) : walk text mode place = some [] := by
  rw [walk, dif_neg (Nat.not_lt.mpr ended)]

private theorem walk_of_ended {notes : Notes} (inside : place < text.length)
    (ran : stride text mode place {} = some (none, notes)) :
    walk text mode place = some [⟨place, notes, none⟩] := by
  rw [walk, dif_pos inside]
  split <;> simp_all

private theorem walk_of_taken {notes : Notes} {taken : Stride} (inside : place < text.length)
    (ran : stride text mode place {} = some (some taken, notes)) :
    walk text mode place =
      (walk text taken.next taken.stop).map (⟨place, notes, some taken⟩ :: ·) := by
  rw [walk, dif_pos inside]
  split <;> simp_all

namespace Iteration

/-- A turn gets on inside of the text, it looks at characters of the text only, by their places, and
each search it makes begins behind the one before. -/
structure Sound (text : Text) (iteration : Iteration) : Prop where
  progress : ∀ taken ∈ iteration.stride, iteration.place < taken.stop ∧ taken.stop ≤ text.length
  looks : ∀ index ∈ iteration.notes.looks, 0 ≤ index ∧ index < text.length
  seeks : (iteration.place :: iteration.notes.seeks).IsChain (· < ·)

/-- The piece that a turn takes off. -/
def piece? (text : Text) (iteration : Iteration) : Option Piece :=
  iteration.stride.map fun taken =>
    { taken := (text.drop iteration.place).take (taken.stop - iteration.place)
      rest := text.drop taken.stop
      next := taken.next
      reading := taken.reading }

private theorem piece?_ofPiece {piece : Piece} (found : read? mode (text.drop place) = some piece)
    (notes : Notes) : piece? text ⟨place, notes, some (Stride.ofPiece place piece)⟩ = some piece := by
  obtain ⟨-, -, rest, taken⟩ := stop_of_read? found
  simp only [piece?, Stride.ofPiece, Option.map_some, Nat.add_sub_cancel_left, rest, taken]

end Iteration

/-- From any place on, reading by places takes off the pieces that reading does, and every turn is
sound. -/
theorem walk_inside (text : Text) (mode : Mode) (place : Nat) :
    ∃ run, walk text mode place = some run ∧ (∀ iteration ∈ run, iteration.Sound text) ∧
      run.length ≤ text.length - place ∧
      run.filterMap (Iteration.piece? text) = pieces mode (text.drop place) := by
  induction left : text.length - place using Nat.strong_induction_on generalizing mode place with
  | _ count ih =>
  by_cases inside : place < text.length
  · obtain ⟨looks, seeks, ran, inBounds, grow⟩ := stride_inside mode inside {}
    rw [List.nil_append, List.nil_append] at ran
    cases found : read? mode (text.drop place) with
    | none =>
      rw [found] at ran
      refine ⟨_, walk_of_ended inside ran, ?_, ?_, ?_⟩
      · rintro iteration (_ | ⟨_, ⟨⟩⟩)
        exact ⟨by rintro taken ⟨⟩, inBounds, grow⟩
      · rw [List.length_singleton]
        omega
      · rw [pieces_of_read?_eq_none found]
        rfl
    | some piece =>
      rw [found] at ran
      obtain ⟨ahead, bounded, rest, -⟩ := stop_of_read? found
      obtain ⟨later, walked, sound, length, pieces_eq⟩ :=
        ih _ (by omega) piece.next (place + piece.taken.length) rfl
      refine ⟨_, (walk_of_taken inside ran).trans (congrArg _ walked), ?_, ?_, ?_⟩
      · rintro iteration (_ | ⟨_, member⟩)
        · refine ⟨?_, inBounds, grow⟩
          rintro taken ⟨⟩
          exact ⟨ahead, bounded⟩
        · exact sound iteration member
      · rw [List.length_cons]
        omega
      · rw [List.filterMap_cons_some (Iteration.piece?_ofPiece found _), pieces_eq, rest,
          pieces_of_read? found]
  · have ended : text.drop place = [] := List.drop_eq_nil_of_le (Nat.not_lt.mp inside)
    have nothing : read? mode [] = none := by cases mode <;> rfl
    refine ⟨[], walk_of_le (Nat.not_lt.mp inside), List.forall_mem_nil _, Nat.zero_le _, ?_⟩
    rw [ended, pieces_of_read?_eq_none nothing]
    rfl

/-- Reading a text by places ends after at most one turn for each character. It takes off the same
pieces as reading does, every turn moves on and stays in the text, and no look at a character falls
outside of the text or counts from its end. -/
theorem walk_progresses_in_bounds (text : Text) :
    ∃ run, walk text .prose 0 = some run ∧ (∀ iteration ∈ run, iteration.Sound text) ∧
      run.length ≤ text.length ∧ run.filterMap (Iteration.piece? text) = pieces .prose text :=
  walk_inside text .prose 0

/-- A dollar sign behind a backslash makes the search go on, with a look in front of each. -/
example : (walk "$a\\$b$".toList .prose 0).map (·.map (·.notes)) =
    some [⟨[0, 1, 2, 4], [1, 4]⟩] := by decide +kernel

end FormulaRepair.Scan

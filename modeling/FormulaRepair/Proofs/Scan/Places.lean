import FormulaRepair.Proofs.Scan.Spans
import Mathlib.Data.List.Infix

/-! # Reading by places

Reading is told here once more, with places in the whole text instead of what is left of it. Characters
are looked at by an index, which counts from the end when it is negative; marks are sought from a place
on. Every look and every place from which a closing dollar sign is sought is noted. One step by places
takes off the piece that one step of reading does; all of its looks fall into the text, and none of them
counts from the end.
-/

namespace FormulaRepair

namespace Text

/-- The character at an index, which counts from the end when it is negative. -/
def at? (text : Text) (index : Int) : Option Char :=
  let place := if index < 0 then index + text.length else index
  if place < 0 then none else text[place.toNat]?

/-- Does the mark stand at this place? -/
def standsAt (mark text : Text) (place : Nat) : Bool := (dropPrefix? mark (text.drop place)).isSome

/-- The first place at which the mark stands, from the given place on. -/
def placeOf? (mark text : Text) (start : Nat) : Option Nat :=
  (splitFirst? mark (text.drop start)).map fun parts => start + parts.1.length

section Parts

variable {text front rest : Text}

private theorem at?_append {first : Char} {index : Int} (whole : text = front ++ first :: rest)
    (here : (front.length : Int) = index) : text.at? index = some first := by
  subst whole here
  have ahead : ¬ (front.length : Int) < 0 := by omega
  simp only [at?, ahead, ↓reduceIte, Int.toNat_natCast]
  simp

theorem slice_eq {before middle after : Text} {start stop : Nat}
    (whole : text = before ++ (middle ++ after)) (starts : before.length = start)
    (stops : start + middle.length = stop) : text.slice start stop = middle := by
  subst whole starts stops
  simpa using slice_append before middle after

theorem standsAt_append (mark : Text) {place : Nat} (whole : text = front ++ rest)
    (here : front.length = place) : standsAt mark text place = (dropPrefix? mark rest).isSome := by
  subst whole here
  simp [standsAt]

theorem placeOf?_append (mark : Text) {start : Nat} (whole : text = front ++ rest)
    (here : front.length = start) :
    placeOf? mark text start = (splitFirst? mark rest).map fun parts => start + parts.1.length := by
  subst whole here
  simp [placeOf?]

/-- A mark is found where it was sought or behind, and inside of the text. -/
theorem placeOf?_bounds {mark : Text} {start place : Nat} (nonempty : mark ≠ [])
    (found : placeOf? mark text start = some place) : start ≤ place ∧ place < text.length := by
  obtain ⟨⟨before, after⟩, split, rfl⟩ := Option.map_eq_some_iff.mp found
  have lengths := congrArg List.length (eq_append_of_splitFirst? split)
  have positive := List.length_pos_iff.mpr nonempty
  simp only [List.length_drop, List.length_append] at lengths
  exact ⟨Nat.le_add_right .., by dsimp only; omega⟩

end Parts

end Text

namespace Scan

/-- The indices of the characters that were looked at, and the places from which a closing dollar sign
was sought. -/
structure Notes where
  looks : List Int := []
  seeks : List Nat := []
deriving DecidableEq, Repr

/-- Reading that takes notes. A look outside of the text breaks it off. -/
abbrev Noted := StateT Notes Option

/-- Look at the character at an index. -/
def look (text : Text) (index : Int) : Noted Char := fun notes =>
  (text.at? index).map fun c => (c, { notes with looks := notes.looks ++ [index] })

/-- Note from where a closing dollar sign is sought. -/
def noteSeek (start : Nat) : Noted Unit := fun notes =>
  some ((), { notes with seeks := notes.seeks ++ [start] })

/-- The place of the closing dollar sign, sought from the given place on. One behind a backslash does
not count, and the search goes on behind it. -/
def closingDollar (text : Text) (start : Nat) : Noted (Option Nat) := do
  noteSeek start
  match found : Text.placeOf? ['$'] text start with
  | none => return none
  | some place =>
      if (← look text (place - 1)) ≠ '\\' then return some place
      else closingDollar text (place + 1)
termination_by text.length - start
decreasing_by
  have bounds := Text.placeOf?_bounds (by simp) found
  omega

/-- How far one step of reading gets, in which mode it goes on there, and what it has read. -/
structure Stride where
  next : Mode
  stop : Nat
  reading : Reading
deriving DecidableEq, Repr

/-- A step inside a code block. -/
def strideFenced (text : Text) (place : Nat) : Option Stride :=
  if Text.standsAt codeFence text place then some ⟨.prose, place + 3, .codeMark⟩
  else (Text.placeOf? codeFence text place).map fun stop => ⟨.fenced, stop, .plain⟩

/-- A step inside inline code. -/
def strideInlineCode (text : Text) (place : Nat) : Noted (Option Stride) := do
  if (← look text place) = '`' then
    if Text.standsAt codeFence text place then return some ⟨.inlineCode, place + 1, .plain⟩
    else return some ⟨.prose, place + 1, .codeMark⟩
  else return (Text.placeOf? ['`'] text place).map fun stop => ⟨.inlineCode, stop, .plain⟩

/-- A step over a formula whose content begins and ends at these places. -/
def strideFormula (text : Text) (delimiter : Delimiter) (start stop : Nat) : Stride :=
  ⟨.prose, stop + delimiter.closer.length, .formula delimiter (text.slice start stop)⟩

/-- A step at a backslash. -/
def strideBackslash (text : Text) (place : Nat) : Noted (Option Stride) := do
  if text.length ≤ place + 1 then return some ⟨.prose, place + 1, .escape⟩
  match bracketDelimiter? (← look text (place + 1)) with
  | none => return some ⟨.prose, place + 2, .escape⟩
  | some delimiter =>
      match Text.placeOf? delimiter.closer text (place + 2) with
      | none => return some ⟨.prose, place + 2, .unclosed delimiter⟩
      | some stop => return some (strideFormula text delimiter (place + 2) stop)

/-- Is there a digit behind the dollar sign at this place? -/
def digitBehind (text : Text) (place : Nat) : Noted Bool := do
  if place + 1 < text.length then return (← look text (place + 1)).isDigit else return false

/-- A step at a dollar sign. -/
def strideDollar (text : Text) (place : Nat) : Noted (Option Stride) := do
  if Text.standsAt ['$', '$'] text place then
    match Text.placeOf? Delimiter.blockDollar.closer text (place + 2) with
    | none => return some ⟨.prose, place + 2, .unclosed .blockDollar⟩
    | some stop => return some (strideFormula text .blockDollar (place + 2) stop)
  else if ← digitBehind text place then return some ⟨.prose, place + 1, .currency⟩
  else
    match ← closingDollar text (place + 1) with
    | none => return some ⟨.prose, place + 1, .unclosed .inlineDollar⟩
    | some stop =>
        if (text.slice (place + 1 : Nat) stop).isBlank then return some ⟨.prose, stop + 1, .blank⟩
        else return some (strideFormula text .inlineDollar (place + 1) stop)

/-- A step in prose. -/
def strideProse (text : Text) (place : Nat) : Noted (Option Stride) := do
  if Text.standsAt codeFence text place then return some ⟨.fenced, place + 3, .codeMark⟩
  match ← look text place with
  | '`' => return some ⟨.inlineCode, place + 1, .codeMark⟩
  | '\\' => strideBackslash text place
  | '$' => strideDollar text place
  | _ => return some ⟨.prose, place + 1, .plain⟩

/-- One step of reading from a place. There is none in code that is never closed. -/
def stride (text : Text) (mode : Mode) (place : Nat) : Noted (Option Stride) :=
  match mode with
  | .prose => strideProse text place
  | .fenced => return strideFenced text place
  | .inlineCode => strideInlineCode text place

/-- Reading with notes comes to this result; all its looks fall into the text, and the places from which
it seeks grow from the given one on. -/
def Careful {α : Type} (text : Text) (start : Nat) (reading : Noted α) (result : α) : Prop :=
  ∀ notes, ∃ looks seeks,
    reading notes = some (result, ⟨notes.looks ++ looks, notes.seeks ++ seeks⟩) ∧
      (∀ index ∈ looks, 0 ≤ index ∧ index < text.length) ∧ (start :: seeks).IsChain (· < ·)

theorem bind_of_eq_some {α β : Type} {reading : Noted α} {next : α → Noted β} {found : α}
    {notes notes' : Notes} (ran : reading notes = some (found, notes')) :
    (reading >>= next) notes = next found notes' := by
  change (reading notes).bind (fun (found, notes) => next found notes) = _
  rw [ran]
  rfl

namespace Careful

variable {α β : Type} {text : Text} {start : Nat}

theorem pure (result : α) : Careful text start (Pure.pure result) result := fun notes =>
  ⟨[], [], by simp only [List.append_nil]; rfl, nofun, List.isChain_singleton _⟩

theorem look_bind {front rest : Text} {first : Char} {index : Int} {next : Char → Noted β} {result : β}
    (whole : text = front ++ first :: rest) (here : (front.length : Int) = index)
    (later : Careful text start (next first) result) :
    Careful text start (look text index >>= next) result := by
  intro notes
  obtain ⟨looks, seeks, run, inside, grow⟩ := later { notes with looks := notes.looks ++ [index] }
  refine ⟨index :: looks, seeks, ?_, ?_, grow⟩
  · have found : look text index notes =
        some (first, { notes with looks := notes.looks ++ [index] }) := by
      rw [look, Text.at?_append whole here, Option.map_some]
    rw [bind_of_eq_some found, run, List.append_assoc, List.singleton_append]
  · rintro other (_ | ⟨_, member⟩)
    · subst whole here
      simp only [List.length_append, List.length_cons]
      omega
    · exact inside other member

private theorem noteSeek_bind {place : Nat} {next : Unit → Noted β} {result : β}
    (behind : start < place) (later : Careful text place (next ()) result) :
    Careful text start (noteSeek place >>= next) result := by
  intro notes
  obtain ⟨looks, seeks, run, inside, grow⟩ := later { notes with seeks := notes.seeks ++ [place] }
  refine ⟨looks, place :: seeks, ?_, inside, grow.cons_cons behind⟩
  change next () { notes with seeks := notes.seeks ++ [place] } = _
  rw [run, List.append_assoc, List.singleton_append]

private theorem bind_pure {reading : Noted α} {next : α → Noted β} {found : α} {result : β}
    (first : Careful text start reading found) (last : next found = Pure.pure result) :
    Careful text start (reading >>= next) result := by
  intro notes
  obtain ⟨looks, seeks, run, inside, grow⟩ := first notes
  refine ⟨looks, seeks, ?_, inside, grow⟩
  rw [bind_of_eq_some run, last]
  rfl

end Careful

section ClosingDollar

private theorem closingDollar_of_none {text : Text} {start : Nat}
    (missing : Text.placeOf? ['$'] text start = none) :
    closingDollar text start = (do noteSeek start; return none) := by
  rw [closingDollar]
  split
  · rfl
  · next found => rw [missing] at found; cases found

private theorem closingDollar_of_some {text : Text} {start place : Nat}
    (found : Text.placeOf? ['$'] text start = some place) :
    closingDollar text start = (do
      noteSeek start
      if (← look text (place - 1)) ≠ '\\' then return some place
      else closingDollar text (place + 1)) := by
  rw [closingDollar]
  split
  · next missing => rw [found] at missing; cases missing
  · next other => rw [found] at other; cases other; rfl

theorem splitClosingDollar?_cons_of_ne {first : Char} (other : first ≠ '$') (previous : Char)
    (rest : Text) :
    splitClosingDollar? previous (first :: rest) =
      (splitClosingDollar? first rest).map fun parts => (first :: parts.1, parts.2) := by
  rw [splitClosingDollar?, if_neg fun closing => other closing.1]

private theorem splitClosingDollar?_eq_none_of_notMem {previous : Char} {text : Text}
    (absent : '$' ∉ text) : splitClosingDollar? previous text = none := by
  induction text generalizing previous with
  | nil => rfl
  | cons first text ih =>
    rw [List.mem_cons, not_or] at absent
    rw [splitClosingDollar?_cons_of_ne (Ne.symm absent.1), ih absent.2, Option.map_none]

/-- The first dollar sign closes unless a backslash stands in front of it. -/
theorem splitClosingDollar?_append {previous : Char} {before : Text} (absent : '$' ∉ before)
    (after : Text) :
    splitClosingDollar? previous (before ++ '$' :: after) =
      if (previous :: before).getLast? = some '\\' then
        (splitClosingDollar? '$' after).map fun parts => (before ++ '$' :: parts.1, parts.2)
      else some (before, after) := by
  induction before generalizing previous with
  | nil => by_cases escaped : previous = '\\' <;> simp [splitClosingDollar?, escaped]
  | cons first before ih =>
    rw [List.mem_cons, not_or] at absent
    rw [List.cons_append, splitClosingDollar?_cons_of_ne (Ne.symm absent.1), ih absent.2,
      List.getLast?_cons_cons]
    split
    · rw [Option.map_map]
      rfl
    · rfl

private theorem exists_last_cons (first : Char) (text : Text) :
    ∃ init last, first :: text = init ++ [last] ∧ init.length = text.length :=
  ⟨(first :: text).dropLast, (first :: text).getLast (List.cons_ne_nil first text),
    (List.dropLast_append_getLast _).symm, by simp⟩

/-- The search by places ends where reading splits the text, and each part of it begins behind the one
before. -/
theorem closingDollar_careful {text front rest : Text} {previous : Char} {start : Nat}
    (whole : text = front ++ previous :: rest) (behind : start < front.length + 1) :
    Careful text start (closingDollar text (front.length + 1))
      ((splitClosingDollar? previous rest).map fun parts => front.length + 1 + parts.1.length) := by
  induction left : rest.length using Nat.strong_induction_on
    generalizing front previous rest start with
  | _ count ih =>
  have opened : text = (front ++ [previous]) ++ rest := by simpa using whole
  have sought := Text.placeOf?_append ['$'] opened (List.length_append ..)
  rw [List.length_singleton] at sought
  cases split : Text.splitFirst? ['$'] rest with
  | none =>
    rw [split, Option.map_none] at sought
    have absent : '$' ∉ rest :=
      mt (List.singleton_infix_iff '$' rest).mpr (Text.splitFirst?_eq_none_iff.mp split)
    rw [closingDollar_of_none sought, splitClosingDollar?_eq_none_of_notMem absent]
    exact .noteSeek_bind behind (.pure none)
  | some parts =>
    obtain ⟨before, after⟩ := parts
    rw [split, Option.map_some] at sought
    obtain ⟨rest_eq, first⟩ := Text.splitFirst?_eq_some_iff.mp split
    have absent := Text.endsFirst_singleton_iff.mp first
    rw [List.append_assoc, List.singleton_append] at rest_eq
    subst rest_eq
    have passed : text = (front ++ previous :: before) ++ '$' :: after := by simpa using whole
    -- The character in front of the dollar sign is the last one of those that were passed.
    obtain ⟨init, last, shape, sizes⟩ := exists_last_cons previous before
    have looked : text = (front ++ init) ++ last :: '$' :: after := by
      rw [passed, shape]
      simp
    have place : ((front ++ init).length : Int) = (front.length + 1 + before.length : Nat) - 1 := by
      rw [List.length_append, sizes]
      omega
    rw [closingDollar_of_some sought, splitClosingDollar?_append absent, shape,
      List.getLast?_concat]
    refine .noteSeek_bind behind (.look_bind looked place ?_)
    by_cases escaped : last = '\\'
    · have shorter : after.length < count := by
        rw [← left, List.length_append, List.length_cons]
        omega
      have length : (front ++ previous :: before).length = front.length + 1 + before.length := by
        rw [List.length_append, List.length_cons]
        omega
      have further : front.length + 1 < (front ++ previous :: before).length + 1 := by omega
      have later := ih after.length shorter passed further rfl
      rw [length] at later
      rw [if_neg (by simpa using escaped), if_pos (by rw [escaped]), Option.map_map]
      convert later using 3
      simp only [Function.comp_apply, List.length_append, List.length_cons]
      omega
    · rw [if_pos escaped, if_neg (by simpa using escaped)]
      exact .pure _

end ClosingDollar

/-- The step that takes off a piece which begins at a place. -/
def Stride.ofPiece (place : Nat) (piece : Piece) : Stride :=
  ⟨piece.next, place + piece.taken.length, piece.reading⟩

section Strides

variable {text front rest : Text}

private theorem strideFenced_eq (whole : text = front ++ rest) :
    strideFenced text front.length = (readFenced rest).map (Stride.ofPiece front.length) := by
  rw [strideFenced, Text.standsAt_append codeFence whole rfl, Text.placeOf?_append codeFence whole rfl,
    readFenced]
  cases Text.dropPrefix? codeFence rest with
  | some after => rfl
  | none => cases Text.splitFirst? codeFence rest <;> rfl

private theorem strideInlineCode_careful {first : Char} (whole : text = front ++ first :: rest) :
    Careful text front.length (strideInlineCode text front.length)
      ((readInlineCode (first :: rest)).map (Stride.ofPiece front.length)) := by
  refine .look_bind whole rfl ?_
  by_cases tick : first = '`'
  · subst tick
    rw [if_pos rfl, Text.standsAt_append codeFence whole rfl]
    change Careful _ _ _ (Option.map _ (if _ then _ else _))
    split
    · exact .pure _
    · exact .pure _
  · have read : readInlineCode (first :: rest) = (Text.splitFirst? ['`'] (first :: rest)).map
        fun parts => ⟨parts.1, '`' :: parts.2, .inlineCode, .plain⟩ := by
      unfold readInlineCode
      split
      · next same => exact absurd (List.cons.inj same).1 tick
      · rfl
    rw [if_neg tick, Text.placeOf?_append ['`'] whole rfl, read, Option.map_map, Option.map_map]
    exact .pure _

/-- The step over a formula takes off the formula between its marks. -/
theorem strideFormula_eq {delimiter : Delimiter} {content after : Text} {start stop : Nat}
    (whole : text = front ++ (delimiter.opener ++ (content ++ (delimiter.closer ++ after))))
    (starts : front.length + delimiter.opener.length = start) (stops : start + content.length = stop) :
    strideFormula text delimiter start stop = Stride.ofPiece front.length
      ⟨delimiter.wrap content, after, .prose, .formula delimiter content⟩ := by
  have between : text.slice start stop = content :=
    Text.slice_eq (whole.trans (List.append_assoc ..).symm) (by rw [← starts, List.length_append])
      stops
  rw [strideFormula, between, ← stops, ← starts, Stride.ofPiece]
  simp only [Delimiter.length_wrap, Nat.add_assoc]

private theorem strideBackslash_careful (whole : text = front ++ '\\' :: rest) :
    Careful text front.length (strideBackslash text front.length)
      (some (Stride.ofPiece front.length (readBackslash rest))) := by
  unfold strideBackslash readBackslash
  cases rest with
  | nil =>
    have ended : text.length ≤ front.length + 1 := by rw [whole, List.length_append]; rfl
    rw [if_pos ended]
    exact .pure _
  | cons escaped rest =>
    have inside : ¬ text.length ≤ front.length + 1 := by
      rw [whole, List.length_append, List.length_cons, List.length_cons]
      omega
    have second : text = (front ++ ['\\']) ++ escaped :: rest := by simpa using whole
    have third : text = (front ++ ['\\', escaped]) ++ rest := by simpa using whole
    rw [if_neg inside]
    refine .look_bind second (by simp) ?_
    dsimp only
    cases bracket : bracketDelimiter? escaped with
    | none => exact .pure _
    | some delimiter =>
      have opener := bracketDelimiter?_eq_some_iff.mp bracket
      dsimp only
      rw [Text.placeOf?_append delimiter.closer third (by simp)]
      cases split : Text.splitFirst? delimiter.closer rest with
      | none => exact .pure _
      | some parts =>
        obtain ⟨content, after⟩ := parts
        have wrapped : delimiter.wrap content = '\\' :: escaped :: (content ++ delimiter.closer) := by
          rw [Delimiter.wrap, opener]
          rfl
        have enclosed : text =
            front ++ (delimiter.opener ++ (content ++ (delimiter.closer ++ after))) := by
          rw [whole, opener, Text.eq_append_of_splitFirst? split]
          simp
        have step := strideFormula_eq enclosed (by rw [opener, List.length_cons]) rfl
        rw [wrapped] at step
        rw [Option.map_some, ← step]
        exact .pure _

private theorem digitBehind_bind {α : Type} {dollar : Char} {start : Nat} {next : Bool → Noted α}
    {result : α} (whole : text = front ++ dollar :: rest)
    (later : Careful text start (next (startsWithDigit rest)) result) :
    Careful text start (digitBehind text front.length >>= next) result := by
  unfold digitBehind
  cases rest with
  | nil =>
    have ended : ¬ front.length + 1 < text.length := by
      rw [whole, List.length_append, List.length_singleton]
      omega
    rw [if_neg ended, pure_bind]
    exact later
  | cons first rest =>
    have inside : front.length + 1 < text.length := by
      rw [whole, List.length_append, List.length_cons, List.length_cons]
      omega
    have second : text = (front ++ [dollar]) ++ first :: rest := by simpa using whole
    rw [if_pos inside, bind_assoc]
    refine .look_bind second (by simp) ?_
    rw [pure_bind]
    exact later

private theorem strideDollar_double (whole : text = front ++ '$' :: '$' :: rest) :
    Careful text front.length (strideDollar text front.length)
      (some (Stride.ofPiece front.length (readDollar ('$' :: rest)))) := by
  have third : text = (front ++ ['$', '$']) ++ rest := by simpa using whole
  have twice : (Text.dropPrefix? ['$', '$'] ('$' :: '$' :: rest)).isSome = true := rfl
  unfold strideDollar
  rw [Text.standsAt_append ['$', '$'] whole rfl, if_pos twice,
    Text.placeOf?_append Delimiter.blockDollar.closer third (by simp)]
  cases split : Text.splitFirst? Delimiter.blockDollar.closer rest with
  | none =>
    have read : readDollar ('$' :: rest) = ⟨['$', '$'], rest, .prose, .unclosed .blockDollar⟩ := by
      simp only [readDollar, split]
    rw [read]
    exact .pure _
  | some parts =>
    obtain ⟨content, after⟩ := parts
    have read : readDollar ('$' :: rest) =
        ⟨Delimiter.blockDollar.wrap content, after, .prose, .formula .blockDollar content⟩ := by
      simp only [readDollar, split]
    have enclosed : text = front ++ (Delimiter.blockDollar.opener ++
        (content ++ (Delimiter.blockDollar.closer ++ after))) := by
      rw [whole, Text.eq_append_of_splitFirst? split]
      simp [Delimiter.opener]
    have step := strideFormula_eq enclosed rfl rfl
    rw [read, ← step]
    exact .pure _

private theorem strideDollar_single (whole : text = front ++ '$' :: rest)
    (single : rest.head? ≠ some '$') :
    Careful text front.length (strideDollar text front.length)
      (some (Stride.ofPiece front.length (readDollar rest))) := by
  have alone : ¬ (Text.dropPrefix? ['$', '$'] ('$' :: rest)).isSome = true := by
    rw [Text.isSome_dropPrefix?_iff]
    rintro ⟨after, same⟩
    rw [← (List.cons.inj same).2] at single
    exact single rfl
  unfold strideDollar
  rw [Text.standsAt_append ['$', '$'] whole rfl, if_neg alone, readDollar_single single]
  refine digitBehind_bind whole ?_
  cases startsWithDigit rest with
  | true => exact .pure _
  | false =>
    refine .bind_pure (closingDollar_careful whole (Nat.lt_succ_self _)) ?_
    cases split : splitClosingDollar? '$' rest with
    | none => rfl
    | some parts =>
      have enclosed : text = front ++ (Delimiter.inlineDollar.opener ++
          (parts.1 ++ (Delimiter.inlineDollar.closer ++ parts.2))) := by
        rw [whole, eq_append_of_splitClosingDollar? split]
        rfl
      have between : text.slice (front.length + 1 : Nat) (front.length + 1 + parts.1.length : Nat) =
          parts.1 :=
        Text.slice_eq (enclosed.trans (List.append_assoc ..).symm) (List.length_append ..) rfl
      have step := strideFormula_eq enclosed rfl rfl
      simp only [Option.map_some, between, Bool.false_eq_true, ↓reduceIte]
      by_cases blank : parts.1.isBlank = true
      · rw [if_pos blank, if_pos blank]
        refine congrArg (pure ∘ some) ?_
        exact congrArg (fun stride : Stride => { stride with reading := .blank }) step
      · rw [if_neg blank, if_neg blank]
        exact congrArg (pure ∘ some) step

private theorem strideProse_careful {first : Char} (whole : text = front ++ first :: rest) :
    Careful text front.length (strideProse text front.length)
      ((readProse (first :: rest)).map (Stride.ofPiece front.length)) := by
  unfold strideProse
  rw [Text.standsAt_append codeFence whole rfl]
  cases found : Text.dropPrefix? codeFence (first :: rest) with
  | some after =>
    obtain rfl : first = '`' := (List.cons.inj (Text.dropPrefix?_eq_some_iff.mp found)).1
    simp only [readProse, found]
    exact .pure _
  | none =>
    refine .look_bind whole rfl ?_
    split
    · simp only [readProse, found]
      exact .pure _
    · exact strideBackslash_careful whole
    · by_cases double : rest.head? = some '$'
      · obtain ⟨rest, rfl⟩ := List.head?_eq_some_iff.mp double
        exact strideDollar_double whole
      · exact strideDollar_single whole double
    · next tick backslash dollar =>
      have read : readProse (first :: rest) = some ⟨[first], rest, .prose, .plain⟩ := by
        unfold readProse
        split <;> simp_all
      rw [read]
      exact .pure _

/-- A step by places takes off the piece that reading does. -/
theorem stride_careful (mode : Mode) {first : Char} (whole : text = front ++ first :: rest) :
    Careful text front.length (stride text mode front.length)
      ((read? mode (first :: rest)).map (Stride.ofPiece front.length)) := by
  cases mode with
  | prose => exact strideProse_careful whole
  | fenced =>
    change Careful _ _ (Pure.pure _) _
    rw [strideFenced_eq whole]
    exact .pure _
  | inlineCode => exact strideInlineCode_careful whole

end Strides

end Scan

end FormulaRepair

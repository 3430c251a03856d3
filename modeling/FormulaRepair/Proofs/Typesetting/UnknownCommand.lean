import FormulaRepair.Proofs.Typesetting.Braces
import Mathlib.Data.List.TakeWhile

/-! # Which commands are found to be unknown

A place of the markup is a hit when a token element opens there whose content begins, behind blanks,
with a command. The search goes through the markup from left to right and takes each element apart by
scanning ahead, and it comes to the leftmost hit and the whole name of its command.
-/

namespace FormulaRepair

namespace UnknownCommand

/-- A letter from `A` to `Z` or from `a` to `z`. -/
def IsLetter (c : Char) : Prop := 'A' ≤ c ∧ c ≤ 'Z' ∨ 'a' ≤ c ∧ c ≤ 'z'

/-- The markup begins with an opening bracket and the name of a token element, which no word character
continues, and right behind the first closing bracket come blanks and a command; its name goes as far
as there are letters. -/
inductive Hit : Text → Text → Prop
  | mk {tag inside blanks name behind : Text}
      (element : tag ∈ [['m', 'i'], ['m', 'o'], ['m', 'n'], ['m', 't', 'e', 'x', 't']])
      (wordEnds : ∀ c ∈ (inside ++ ['>']).head?, isWord c = false)
      (firstClose : '>' ∉ inside)
      (blank : ∀ c ∈ blanks, isBlank c = true)
      (nonempty : name ≠ [])
      (letters : ∀ c ∈ name, IsLetter c)
      (whole : ∀ c ∈ behind.head?, ¬ IsLetter c) :
      Hit ('<' :: (tag ++ (inside ++ '>' :: (blanks ++ '\\' :: (name ++ behind))))) name

/-- A place of the markup is a hit for the command of this name. -/
def HitAt (markup : Text) (place : Nat) (name : Text) : Prop := Hit (markup.drop place) name

private theorem isLetter_iff {c : Char} : isLetter c = true ↔ IsLetter c := by
  have upper : c.isUpper = true ↔ 'A' ≤ c ∧ c ≤ 'Z' := decide_eq_true_iff
  have lower : c.isLower = true ↔ 'a' ≤ c ∧ c ≤ 'z' :=
    Bool.and_eq_true_iff.trans (and_congr decide_eq_true_iff decide_eq_true_iff)
  exact Bool.or_eq_true_iff.trans (or_congr upper lower)

section Runs

variable {p : Char → Bool} {text front rest : Text}

/-- A text splits behind its longest run of characters of one kind. -/
theorem takeWhile_dropWhile_iff :
    text.takeWhile p = front ∧ text.dropWhile p = rest ↔
      text = front ++ rest ∧ (∀ c ∈ front, p c = true) ∧ ∀ c ∈ rest.head?, p c = false := by
  constructor
  · rintro ⟨rfl, rfl⟩
    refine ⟨List.takeWhile_append_dropWhile.symm, fun c => List.mem_takeWhile_imp, ?_⟩
    intro c first
    have ended := List.head?_dropWhile_not p text
    rw [first] at ended
    exact ended
  · rintro ⟨rfl, run, ends⟩
    rw [List.takeWhile_append_of_pos run, List.dropWhile_append_of_pos run]
    cases rest with
    | nil => simp
    | cons c rest => simp [ends c rfl]

private theorem takeWhile_eq_iff :
    text.takeWhile p = front ↔
      ∃ rest, text = front ++ rest ∧ (∀ c ∈ front, p c = true) ∧ ∀ c ∈ rest.head?, p c = false := by
  simp only [← takeWhile_dropWhile_iff, exists_and_left, exists_eq', and_true]

theorem dropWhile_eq_iff :
    text.dropWhile p = rest ↔
      ∃ front, text = front ++ rest ∧ (∀ c ∈ front, p c = true) ∧ ∀ c ∈ rest.head?, p c = false := by
  simp only [← takeWhile_dropWhile_iff, exists_and_right, exists_eq', true_and]

end Runs

/-- What follows the name of a token element does not go on with that name. -/
theorem afterTokenName?_eq_some_iff {text rest : Text} :
    afterTokenName? text = some rest ↔
      ∃ tag ∈ tokenNames, text = tag ++ rest ∧ ∀ c ∈ rest.head?, isWord c = false := by
  have ends (rest : Text) : atWordEnd rest = true ↔ ∀ c ∈ rest.head?, isWord c = false := by
    cases rest <;> simp [atWordEnd]
  constructor
  · intro found
    obtain ⟨tag, member, here⟩ := List.exists_of_findSome?_eq_some found
    obtain ⟨front, ended⟩ := Option.filter_eq_some_iff.mp here
    exact ⟨tag, member, Text.dropPrefix?_eq_some_iff.mp front, (ends rest).mp ended⟩
  -- No two names begin alike, so the search among them does not stop at another one.
  · rintro ⟨tag, member, rfl, ended⟩
    rw [← ends] at ended
    simp only [tokenNames, List.mem_cons, List.not_mem_nil, or_false] at member
    rcases member with rfl | rfl | rfl | rfl <;>
      simp [afterTokenName?, tokenNames, Text.dropPrefix?, ended]

private theorem head?_inside (inside rest : Text) :
    (inside ++ '>' :: rest).head? = (inside ++ ['>']).head? := by
  cases inside <;> rfl

/-- The content of an element begins behind the first closing bracket. -/
theorem dropWhile_close_iff {text content : Text} :
    text.dropWhile (· != '>') = '>' :: content ↔
      ∃ inside, text = inside ++ '>' :: content ∧ '>' ∉ inside := by
  rw [dropWhile_eq_iff]
  refine exists_congr fun inside => and_congr_right fun _ => ?_
  constructor
  · rintro ⟨others, -⟩ close
    exact absurd (others _ close) (by decide)
  · intro close
    refine ⟨fun c member => ?_, by simp⟩
    rw [bne_iff_ne]
    rintro rfl
    exact close member

private theorem stripLeft_backslash_iff {text command : Text} :
    text.stripLeft = '\\' :: command ↔
      ∃ blanks, text = blanks ++ '\\' :: command ∧ ∀ c ∈ blanks, isBlank c = true := by
  rw [Text.stripLeft, dropWhile_eq_iff]
  refine exists_congr fun blanks => and_congr_right fun _ => and_iff_left ?_
  rintro c ⟨⟩
  decide

private theorem takeWhile_isLetter_iff {command name : Text} :
    command.takeWhile isLetter = name ↔
      ∃ behind, command = name ++ behind ∧ (∀ c ∈ name, IsLetter c) ∧
        ∀ c ∈ behind.head?, ¬ IsLetter c := by
  simp only [takeWhile_eq_iff, ← isLetter_iff, Bool.not_eq_true]

/-- Behind an opening bracket, the search finds the command of the hit that begins with it. -/
theorem commandAfterOpening?_eq_some_iff {rest name : Text} :
    commandAfterOpening? rest = some name ↔ Hit ('<' :: rest) name := by
  constructor
  · intro found
    unfold commandAfterOpening? at found
    split at found
    case h_1 => cases found
    next element =>
    obtain ⟨tag, member, rfl, wordEnds⟩ := afterTokenName?_eq_some_iff.mp element
    split at found
    case h_2 => cases found
    next content close =>
    obtain ⟨inside, rfl, firstClose⟩ := dropWhile_close_iff.mp close
    split at found
    case h_2 => cases found
    next command backslash =>
    obtain ⟨blanks, rfl, blank⟩ := stripLeft_backslash_iff.mp backslash
    obtain ⟨nonempty, taken⟩ :
        command.takeWhile isLetter ≠ [] ∧ command.takeWhile isLetter = name := by
      simpa using found
    rw [taken] at nonempty
    obtain ⟨behind, rfl, letters, whole⟩ := takeWhile_isLetter_iff.mp taken
    rw [head?_inside] at wordEnds
    exact .mk member wordEnds firstClose blank nonempty letters whole
  · intro hit
    cases hit with
    | @mk tag inside blanks name behind element wordEnds firstClose blank nonempty letters whole =>
    rw [← head?_inside inside (blanks ++ '\\' :: (name ++ behind))] at wordEnds
    have named := afterTokenName?_eq_some_iff.mpr ⟨tag, element, rfl, wordEnds⟩
    have close : (inside ++ '>' :: (blanks ++ '\\' :: (name ++ behind))).dropWhile (· != '>') =
        '>' :: (blanks ++ '\\' :: (name ++ behind)) :=
      dropWhile_close_iff.mpr ⟨inside, rfl, firstClose⟩
    have backslash : Text.stripLeft (blanks ++ '\\' :: (name ++ behind)) = '\\' :: (name ++ behind) :=
      stripLeft_backslash_iff.mpr ⟨blanks, rfl, blank⟩
    have taken : (name ++ behind).takeWhile isLetter = name :=
      takeWhile_isLetter_iff.mpr ⟨behind, rfl, letters, whole⟩
    simp [commandAfterOpening?, named, close, backslash, taken, nonempty]

/-- Whether a hit begins with a character is what the search asks there. -/
theorem hitAt_zero_iff {first : Char} {rest name : Text} :
    HitAt (first :: rest) 0 name ↔
      (if first = '<' then commandAfterOpening? rest else none) = some name := by
  rw [HitAt, List.drop_zero]
  split
  · next bracket => rw [bracket, commandAfterOpening?_eq_some_iff]
  · next other =>
    refine ⟨fun hit => ?_, nofun⟩
    cases hit
    exact absurd rfl other

theorem not_hitAt_nil {place : Nat} {name : Text} : ¬ HitAt [] place name := by
  rw [HitAt, List.drop_nil]
  exact nofun

/-- The search stops at the leftmost hit, with the name of its command. -/
theorem find?_eq_some_iff {markup name : Text} :
    find? markup = some name ↔
      ∃ place, HitAt markup place name ∧ ∀ before < place, ∀ other, ¬ HitAt markup before other := by
  induction markup with
  | nil => simp [find?, not_hitAt_nil]
  | cons first rest ih =>
    rw [find?]
    split
    · next command here =>
      have hit : HitAt (first :: rest) 0 command := hitAt_zero_iff.mpr here
      constructor
      · rintro ⟨⟩
        exact ⟨0, hit, nofun⟩
      · rintro ⟨_ | place, other, earliest⟩
        · rw [← here, hitAt_zero_iff.mp other]
        · exact absurd hit (earliest 0 place.succ_pos command)
    · next nothing =>
      have noHit (other : Text) : ¬ HitAt (first :: rest) 0 other := by
        rw [hitAt_zero_iff, nothing]
        exact nofun
      rw [ih]
      constructor
      · rintro ⟨place, hit, earliest⟩
        refine ⟨place + 1, hit, ?_⟩
        rintro (_ | before) earlier
        · exact noHit
        · exact earliest before (Nat.lt_of_succ_lt_succ earlier)
      · rintro ⟨_ | place, hit, earliest⟩
        · exact absurd hit (noHit name)
        · exact ⟨place, hit, fun before earlier => earliest (before + 1) (Nat.succ_lt_succ earlier)⟩

private theorem find?_eq_none_iff {markup : Text} :
    find? markup = none ↔ ∀ place name, ¬ HitAt markup place name := by
  induction markup with
  | nil => simp [find?, not_hitAt_nil]
  | cons first rest ih =>
    rw [find?]
    split
    · next command here =>
      exact ⟨nofun, fun none => absurd (hitAt_zero_iff.mpr here) (none 0 command)⟩
    · next nothing =>
      rw [ih]
      refine ⟨fun noHit => ?_, fun noHit place => noHit (place + 1)⟩
      rintro (_ | place)
      · intro name
        rw [hitAt_zero_iff, nothing]
        exact nofun
      · exact noHit place

private theorem message_inj {name other : Text} : message name = message other ↔ name = other := by
  unfold message
  exact List.append_right_inj _

/-- Where the braces of a formula are balanced and its typesetter returns markup, checking rejects
the formula for the command of the leftmost hit in the markup, with its whole name, and gives exactly
this markup where there is no hit. -/
theorem checked_tells_leftmost_hit {state : Type} (typesetter : Typesetter state) (sample : Sample)
    (before : state) (markup : Text) (balanced : Braces.Balanced (Braces.free sample.latex))
    (returns : (typesetter sample before).1 = .ok markup) :
    (∀ name, (typesetter.checked sample before).1 =
        .error (.rejected ("Undefined control sequence: \\".toList ++ name)) ↔
      ∃ place, HitAt markup place name ∧ ∀ earlier < place, ∀ other, ¬ HitAt markup earlier other) ∧
    ((typesetter.checked sample before).1 = .ok markup ↔ ∀ place name, ¬ HitAt markup place name) := by
  have accepted : Braces.check sample.latex = .ok () := Braces.check_eq_ok_iff.mpr balanced
  have told : (typesetter.checked sample before).1 = Refusal.ofOutcome (.ok markup) := by
    rw [← returns, Typesetter.checked, accepted]
    rfl
  simp only [told, Refusal.ofOutcome, ← find?_eq_some_iff, ← find?_eq_none_iff]
  cases find? markup with
  | none => exact ⟨fun name => ⟨nofun, nofun⟩, by simp⟩
  | some command =>
    refine ⟨fun name => ?_, by simp⟩
    change Except.error (Refusal.rejected (message command)) = .error (.rejected (message name)) ↔ _
    rw [Except.error.injEq, Refusal.rejected.injEq, message_inj, Option.some_inj]

/-- An element with a longer name and one with a letter in front of the command are passed over. -/
theorem checked_tells_leftmost_hit_attribute :
    let sample : Sample := ⟨"\\a\x7bb\x7d".toList, true⟩
    let markup := "<mix>\\a</mix><mi>c\\d</mi><mo form=\"e\"> \\fgh2</mo><mi>\\i</mi>".toList
    let typesetter : Typesetter Unit := fun _ => pure (.ok markup)
    Braces.Balanced (Braces.free sample.latex) ∧ (typesetter sample ()).1 = .ok markup ∧
      (typesetter.checked sample ()).1 =
        .error (.rejected ("Undefined control sequence: \\".toList ++ "fgh".toList)) ∧
      ∃ place, HitAt markup place "fgh".toList ∧
        ∀ earlier < place, ∀ other, ¬ HitAt markup earlier other := by
  intro sample markup typesetter
  have balanced : Braces.Balanced (Braces.free sample.latex) :=
    Braces.check_eq_ok_iff.mp (by decide)
  have rejected : (typesetter.checked sample ()).1 =
      .error (.rejected ("Undefined control sequence: \\".toList ++ "fgh".toList)) := by
    decide +kernel
  have leftmost := checked_tells_leftmost_hit typesetter sample () markup balanced rfl
  exact ⟨balanced, rfl, rejected, (leftmost.1 "fgh".toList).mp rejected⟩

end UnknownCommand

end FormulaRepair

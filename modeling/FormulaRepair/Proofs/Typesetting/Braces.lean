import FormulaRepair.Proofs.Cache.Renderings
import Mathlib.Data.List.Induction
import Mathlib.Order.Bounds.Basic

/-! # Which formulas have balanced braces

The braces that count are those that no backslash takes with it. Checking counts how many of them are
open, and this says everything about how they match: a closing brace has no partner exactly where none
is open, the first such brace is the one that is reported, and without one the formula is accepted
when no brace is left open. Only accepted formulas reach the typesetter.
-/

namespace FormulaRepair

/-- The same typesetter, with a record of the samples that it is asked for. -/
def Typesetter.recorded {state : Type} (typesetter : Typesetter state) :
    Typesetter (Recorded state) := fun sample before =>
  let (outcome, whole) := typesetter sample before.whole
  (outcome, { whole := whole, rendered := sample :: before.rendered })

namespace Braces

/-- The characters that no backslash takes with it, with their positions, when the text begins at the
given one. -/
def freeFrom (position : Nat) : Text → List (Nat × Char)
  | [] => []
  | ['\\'] => []
  | '\\' :: _ :: rest => freeFrom (position + 2) rest
  | c :: rest => (position, c) :: freeFrom (position + 1) rest

/-- A brace with its position. -/
structure Brace where
  position : Nat
  opens : Bool
deriving DecidableEq, Repr

namespace Brace

/-- A brace as it stands in the text. -/
def char (brace : Brace) : Char := if brace.opens then '\x7b' else '\x7d'

/-- The brace that a character at a position is. -/
def ofChar? : Nat × Char → Option Brace
  | (position, '\x7b') => some ⟨position, true⟩
  | (position, '\x7d') => some ⟨position, false⟩
  | _ => none

end Brace

/-- The free braces of a text that begins at the given position. -/
def bracesFrom (position : Nat) (text : Text) : List Brace :=
  (freeFrom position text).filterMap Brace.ofChar?

/-- The free braces of a formula. -/
def free (latex : Text) : List Brace := bracesFrom 0 latex

/-- How many braces of a word open. -/
def opened (word : List Brace) : Nat := word.countP Brace.opens

/-- How many braces of a word close. -/
def closed (word : List Brace) : Nat := word.countP (!·.opens)

/-- Where `depth` braces are open in front of it, no beginning of the word closes more than are open. -/
def Covered (depth : Nat) (word : List Brace) : Prop :=
  ∀ front, front <+: word → closed front ≤ depth + opened front

/-- No beginning of the word closes more than it opens, and on the whole it closes as many. -/
structure Balanced (word : List Brace) : Prop where
  covered : Covered 0 word
  totals : closed word = opened word

/-- The closing brace at this position has no partner: no opening brace in front of it is followed by
a balanced word up to it. -/
def ClosesNothing (word : List Brace) (position : Nat) : Prop :=
  ∃ before after, word = before ++ ⟨position, false⟩ :: after ∧
    ∀ outer place inner, before = outer ++ ⟨place, true⟩ :: inner → ¬ Balanced inner

section Counting

@[simp] theorem opened_nil : opened [] = 0 := rfl

@[simp] theorem closed_nil : closed [] = 0 := rfl

@[simp] theorem opened_append (first second : List Brace) :
    opened (first ++ second) = opened first + opened second := List.countP_append

@[simp] theorem closed_append (first second : List Brace) :
    closed (first ++ second) = closed first + closed second := List.countP_append

variable (position : Nat) (word : List Brace)

@[simp] theorem opened_opening : opened (⟨position, true⟩ :: word) = opened word + 1 := by
  simp [opened]

@[simp] theorem closed_opening : closed (⟨position, true⟩ :: word) = closed word := by
  simp [closed]

@[simp] theorem opened_closing : opened (⟨position, false⟩ :: word) = opened word := by
  simp [opened]

@[simp] theorem closed_closing : closed (⟨position, false⟩ :: word) = closed word + 1 := by
  simp [closed]

end Counting

section Covered

variable {depth position : Nat} {word : List Brace}

@[simp] theorem covered_nil (depth : Nat) : Covered depth [] := by
  intro front start
  rw [List.prefix_nil.mp start]
  exact Nat.zero_le _

private theorem covered_cons_opening :
    Covered depth (⟨position, true⟩ :: word) ↔ Covered (depth + 1) word := by
  constructor
  · intro covered front start
    have bound := covered (⟨position, true⟩ :: front) (List.cons_prefix_cons.mpr ⟨rfl, start⟩)
    rw [closed_opening, opened_opening] at bound
    omega
  · intro covered front start
    rcases List.prefix_cons_iff.mp start with rfl | ⟨rest, rfl, begins⟩
    · simp
    · have bound := covered rest begins
      rw [closed_opening, opened_opening]
      omega

private theorem covered_cons_closing :
    Covered (depth + 1) (⟨position, false⟩ :: word) ↔ Covered depth word := by
  constructor
  · intro covered front start
    have bound := covered (⟨position, false⟩ :: front) (List.cons_prefix_cons.mpr ⟨rfl, start⟩)
    rw [closed_closing, opened_closing] at bound
    omega
  · intro covered front start
    rcases List.prefix_cons_iff.mp start with rfl | ⟨rest, rfl, begins⟩
    · simp
    · have bound := covered rest begins
      rw [closed_closing, opened_closing]
      omega

end Covered

/-- Among braces more of which open than close, the level of every smaller number of open braces is
left for the last time by an opening brace. -/
theorem exists_opening {level : Nat} {word : List Brace}
    (above : level + closed word < opened word) :
    ∃ outer place inner, word = outer ++ ⟨place, true⟩ :: inner ∧
      opened outer = level + closed outer ∧ Covered 0 inner := by
  induction word using List.reverseRecOn with
  | nil => exact absurd above (Nat.not_lt_zero _)
  | append_singleton word last ih =>
    rw [closed_append, opened_append] at above
    by_cases earlier : level + closed word < opened word
    · obtain ⟨outer, place, inner, rfl, reached, covered⟩ := ih earlier
      refine ⟨outer, place, inner ++ [last], by simp, reached, ?_⟩
      intro front start
      rcases List.prefix_concat_iff.mp start with rfl | start
      · simp only [closed_append, opened_append, closed_opening, opened_opening] at above ⊢
        omega
      · exact covered front start
    -- The level is left only now, so it is an opening brace that leaves it.
    · obtain ⟨place, opens⟩ := last
      cases opens with
      | false =>
        rw [closed_closing, opened_closing, closed_nil, opened_nil] at above
        omega
      | true =>
        rw [closed_opening, opened_opening, closed_nil, opened_nil] at above
        exact ⟨word, place, [], rfl, by omega, covered_nil 0⟩

/-- Where a brace is open, a closing brace has a partner. -/
theorem exists_partner {before : List Brace} (open_ : closed before < opened before) :
    ∃ outer place inner, before = outer ++ ⟨place, true⟩ :: inner ∧ Balanced inner := by
  obtain ⟨outer, place, inner, rfl, reached, covered⟩ :=
    exists_opening (by omega : (opened before - closed before - 1) + closed before < opened before)
  simp only [closed_append, opened_append, closed_opening, opened_opening] at open_ reached
  exact ⟨outer, place, inner, rfl, covered, by omega⟩

/-- In a covered word, every closing brace has a partner. -/
theorem Covered.not_closesNothing {word : List Brace} (covered : Covered 0 word) (position : Nat) :
    ¬ ClosesNothing word position := by
  rintro ⟨before, after, rfl, alone⟩
  have bound := covered (before ++ [⟨position, false⟩]) ⟨after, by simp⟩
  simp only [closed_append, opened_append, closed_closing, opened_closing, closed_nil,
    opened_nil] at bound
  have open_ : closed before < opened before := by omega
  obtain ⟨outer, place, inner, same, balanced⟩ := exists_partner open_
  exact alone outer place inner same balanced

/-- A closing brace for which none is left open in a covered word has no partner. -/
theorem Covered.closesNothing {before : List Brace} (covered : Covered 0 before)
    (settled : closed before = opened before) (position : Nat) (after : List Brace) :
    ClosesNothing (before ++ ⟨position, false⟩ :: after) position := by
  refine ⟨before, after, rfl, ?_⟩
  rintro outer place inner rfl ⟨-, totals⟩
  have bound := covered outer (List.prefix_append _ _)
  simp only [closed_append, opened_append, closed_opening, opened_opening] at settled
  omega

section Free

variable (position : Nat) (rest : Text)

@[simp] theorem bracesFrom_nil : bracesFrom position [] = [] := rfl

@[simp] theorem bracesFrom_lone : bracesFrom position ['\\'] = [] := rfl

@[simp] theorem bracesFrom_pair (taken : Char) :
    bracesFrom position ('\\' :: taken :: rest) = bracesFrom (position + 2) rest := rfl

@[simp] theorem bracesFrom_opening :
    bracesFrom position ('\x7b' :: rest) = ⟨position, true⟩ :: bracesFrom (position + 1) rest := rfl

@[simp] theorem bracesFrom_closing :
    bracesFrom position ('\x7d' :: rest) = ⟨position, false⟩ :: bracesFrom (position + 1) rest := rfl

private theorem bracesFrom_other {c : Char} (backslash : c ≠ '\\') (opening : c ≠ '\x7b')
    (closing : c ≠ '\x7d') :
    bracesFrom position (c :: rest) = bracesFrom (position + 1) rest := by
  have noBrace : Brace.ofChar? (position, c) = none := by
    unfold Brace.ofChar?
    split <;> simp_all
  have taken : freeFrom position (c :: rest) = (position, c) :: freeFrom (position + 1) rest := by
    rw [freeFrom] <;> simp [backslash]
  rw [bracesFrom, taken, List.filterMap_cons, noBrace, bracesFrom]

end Free

/-- What the outcome of checking says about the braces that are left, where `depth` are open. -/
def Tells (depth : Nat) (word : List Brace) : Except Problem Unit → Prop
  | .ok () => Covered depth word ∧ closed word = depth + opened word
  | .error .unclosed => Covered depth word ∧ closed word < depth + opened word
  | .error (.unexpectedClose position) =>
      ∃ before after, word = before ++ ⟨position, false⟩ :: after ∧ Covered depth before ∧
        closed before = depth + opened before

/-- One more brace in front is told of alike, where as many braces are open behind it as it leaves. -/
theorem Tells.cons {depth behind : Nat} {brace : Brace} {word : List Brace}
    {outcome : Except Problem Unit}
    (covers : ∀ word, Covered behind word → Covered depth (brace :: word))
    (level : depth + opened [brace] = behind + closed [brace]) (tells : Tells behind word outcome) :
    Tells depth (brace :: word) outcome := by
  have shift (word : List Brace) : opened (brace :: word) = opened [brace] + opened word ∧
      closed (brace :: word) = closed [brace] + closed word :=
    ⟨opened_append [brace] word, closed_append [brace] word⟩
  have first := shift word
  rcases outcome with (place | -) | ⟨⟩
  · obtain ⟨before, after, rfl, covered, settled⟩ := tells
    have counts := shift before
    exact ⟨brace :: before, after, rfl, covers before covered, by omega⟩
  · obtain ⟨covered, left⟩ := tells
    exact ⟨covers word covered, by omega⟩
  · obtain ⟨covered, settled⟩ := tells
    exact ⟨covers word covered, by omega⟩

/-- Checking tells how the braces from a position on match. -/
theorem tells_checkFrom (position depth : Nat) (text : Text) :
    Tells depth (bracesFrom position text) (checkFrom position depth text) := by
  fun_induction checkFrom position depth text with
  | case1 => exact ⟨covered_nil 0, rfl⟩
  | case2 position depth open_ =>
    refine ⟨covered_nil depth, ?_⟩
    rw [bracesFrom_nil, closed_nil, opened_nil]
    omega
  | case3 position depth ih => simpa using ih
  | case4 position depth taken rest ih => simpa using ih
  | case5 position depth rest _ _ ih => exact ih.cons (fun _ => covered_cons_opening.mpr) rfl
  | case6 position rest => exact ⟨[], _, rfl, covered_nil 0, rfl⟩
  | case7 position rest depth _ _ _ ih => exact ih.cons (fun _ => covered_cons_closing.mpr) rfl
  | case8 position depth c rest lone pair opening closing ih =>
    have backslash : c ≠ '\\' := by
      rintro rfl
      cases rest with
      | nil => exact lone rfl rfl
      | cons head rest => exact pair head rest rfl rfl
    rwa [bracesFrom_other position rest backslash opening closing]

section Positions

variable {position : Nat} {text : Text}

theorem mem_freeFrom {place : Nat} {c : Char} (member : (place, c) ∈ freeFrom position text) :
    position ≤ place ∧ text[place - position]? = some c := by
  fun_induction freeFrom position text with
  | case1 => cases member
  | case2 => cases member
  | case3 position taken rest ih =>
    obtain ⟨bound, found⟩ := ih member
    have shift : place - position = place - (position + 2) + 2 := by omega
    refine ⟨by omega, ?_⟩
    rw [shift, List.getElem?_cons_succ, List.getElem?_cons_succ]
    exact found
  | case4 position first rest _ _ ih =>
    rcases List.mem_cons.mp member with same | later
    · cases same
      exact ⟨Nat.le_refl _, by simp⟩
    · obtain ⟨bound, found⟩ := ih later
      have shift : place - position = place - (position + 1) + 1 := by omega
      refine ⟨by omega, ?_⟩
      rw [shift, List.getElem?_cons_succ]
      exact found

private theorem pairwise_freeFrom (position : Nat) (text : Text) :
    (freeFrom position text).Pairwise fun first second => first.1 < second.1 := by
  fun_induction freeFrom position text with
  | case1 => exact .nil
  | case2 => exact .nil
  | case3 position taken rest ih => exact ih
  | case4 position first rest _ _ ih =>
    refine .cons (fun (place, c) later => ?_) ih
    have bound := (mem_freeFrom later).1
    exact bound

theorem Brace.ofChar?_eq_some {place : Nat} {c : Char} {brace : Brace}
    (found : ofChar? (place, c) = some brace) : brace.position = place ∧ brace.char = c := by
  unfold ofChar? at found
  split at found
  · next same => cases same; cases found; exact ⟨rfl, rfl⟩
  · next same => cases same; cases found; exact ⟨rfl, rfl⟩
  · cases found

/-- A brace stands at its position. -/
theorem getElem?_of_mem_free {latex : Text} {brace : Brace} (member : brace ∈ free latex) :
    latex[brace.position]? = some brace.char := by
  obtain ⟨⟨place, c⟩, listed, found⟩ := List.mem_filterMap.mp member
  obtain ⟨rfl, rfl⟩ := Brace.ofChar?_eq_some found
  exact (mem_freeFrom listed).2

/-- Braces are listed from left to right. -/
theorem pairwise_free (latex : Text) :
    (free latex).Pairwise fun first second => first.position < second.position := by
  refine List.pairwise_filterMap.mpr ((pairwise_freeFrom 0 latex).imp ?_)
  rintro ⟨place, c⟩ ⟨later, d⟩ before first found second foundLater
  rwa [(Brace.ofChar?_eq_some found).1, (Brace.ofChar?_eq_some foundLater).1]

end Positions

/-- The first closing brace for which none is open is the first one without a partner. -/
theorem isLeast_closesNothing {before after : List Brace} {position : Nat}
    (sorted : (before ++ ⟨position, false⟩ :: after).Pairwise
      fun first second => first.position < second.position)
    (covered : Covered 0 before) (settled : closed before = opened before) :
    IsLeast {place | ClosesNothing (before ++ ⟨position, false⟩ :: after) place} position := by
  refine ⟨covered.closesNothing settled position after, ?_⟩
  rintro place ⟨outer, behind, same, alone⟩
  have later : ∀ brace ∈ after, position < brace.position :=
    (List.pairwise_cons.mp (List.pairwise_append.mp sorted).2.1).1
  have reached (among : ⟨place, false⟩ ∈ (⟨position, false⟩ : Brace) :: after) :
      position ≤ place := by
    rcases List.mem_cons.mp among with here | there
    · cases here
      exact Nat.le_refl _
    · exact Nat.le_of_lt (later _ there)
  rcases List.append_eq_append_iff.mp same with ⟨gap, -, split⟩ | ⟨gap, split, tail⟩
  · exact reached (by simp [split])
  · cases gap with
    | nil =>
      obtain ⟨here, -⟩ := List.cons.inj tail
      exact reached (here ▸ List.mem_cons_self ..)
    | cons first gap =>
      obtain ⟨rfl, -⟩ := List.cons.inj tail
      exact absurd ⟨outer, gap, split, alone⟩ (covered.not_closesNothing place)

section Outcomes

variable {latex : Text}

theorem tells_check (latex : Text) : Tells 0 (free latex) (check latex) := tells_checkFrom 0 0 latex

theorem check_eq_ok_iff : check latex = .ok () ↔ Balanced (free latex) := by
  have tells := tells_check latex
  constructor
  · intro accepted
    rw [accepted] at tells
    exact ⟨tells.1, by simpa using tells.2⟩
  · intro balanced
    generalize check latex = outcome at tells ⊢
    rcases outcome with (place | -) | ⟨⟩
    · obtain ⟨before, after, split, covered, settled⟩ := tells
      refine absurd ?_ (balanced.covered.not_closesNothing place)
      rw [split]
      exact covered.closesNothing (by simpa using settled) place after
    · have left := tells.2
      have totals := balanced.totals
      omega
    · rfl

theorem check_eq_unexpectedClose_iff {position : Nat} :
    check latex = .error (.unexpectedClose position) ↔
      IsLeast {place | ClosesNothing (free latex) place} position := by
  have tells := tells_check latex
  have first (place : Nat) (told : Tells 0 (free latex) (.error (.unexpectedClose place))) :
      IsLeast {place | ClosesNothing (free latex) place} place := by
    obtain ⟨before, after, split, covered, settled⟩ := told
    have sorted := pairwise_free latex
    rw [split] at sorted ⊢
    exact isLeast_closesNothing sorted covered (by simpa using settled)
  constructor
  · intro rejected
    rw [rejected] at tells
    exact first position tells
  · intro least
    generalize check latex = outcome at tells ⊢
    rcases outcome with (place | -) | ⟨⟩
    · rw [(first place tells).unique least]
    · exact absurd least.1 (tells.1.not_closesNothing position)
    · exact absurd least.1 (tells.1.not_closesNothing position)

private theorem check_eq_unclosed_iff :
    check latex = .error .unclosed ↔
      (∀ position, ¬ ClosesNothing (free latex) position) ∧
        closed (free latex) < opened (free latex) := by
  have tells := tells_check latex
  constructor
  · intro rejected
    rw [rejected] at tells
    exact ⟨tells.1.not_closesNothing, by simpa using tells.2⟩
  · rintro ⟨partners, more⟩
    rcases outcome : check latex with (place | -) | ⟨⟩
    · exact absurd (check_eq_unexpectedClose_iff.mp outcome).1 (partners place)
    · rfl
    · have totals := (check_eq_ok_iff.mp outcome).totals
      omega

end Outcomes

/-- Checking braces accepts exactly the balanced formulas, reports the first closing brace that has no
partner, and says that a brace is left open when each closing one has its partner but more of them
open. The typesetter is asked for the accepted formulas, once, and for no others. -/
theorem check_tells_balance (latex : Text) :
    (∀ brace ∈ free latex, latex[brace.position]? = some brace.char) ∧
    (check latex = .ok () ↔ Balanced (free latex)) ∧
    (∀ position, check latex = .error (.unexpectedClose position) ↔
      IsLeast {place | ClosesNothing (free latex) place} position) ∧
    (check latex = .error .unclosed ↔
      (∀ position, ¬ ClosesNothing (free latex) position) ∧
        closed (free latex) < opened (free latex)) ∧
    ∀ {state : Type} (typesetter : Typesetter state) (display : Bool) (before : Recorded state),
      typesetter.recorded.checked ⟨latex, display⟩ before =
        match check latex with
        | .ok () =>
            let (outcome, whole) := typesetter ⟨latex, display⟩ before.whole
            (Refusal.ofOutcome outcome, ⟨whole, ⟨latex, display⟩ :: before.rendered⟩)
        | .error (.unexpectedClose position) =>
            (.error (.rejected ("Unexpected '\x7d' at position ".toList ++ Text.ofNat position)),
              before)
        | .error .unclosed =>
            (.error (.rejected "Expected '\x7d', got 'EOF' at end of input".toList), before) := by
  refine ⟨fun _ => getElem?_of_mem_free, check_eq_ok_iff, fun _ => check_eq_unexpectedClose_iff,
    check_eq_unclosed_iff, fun typesetter display before => ?_⟩
  rw [Typesetter.checked]
  rcases check latex with (position | -) | ⟨⟩ <;> rfl

/-- The brace behind a backslash opens nothing, and the one that is never closed comes too late. -/
example : check "\\\x7ba\x7d\\\\\x7b".toList = .error (.unexpectedClose 3) := by decide

end Braces

end FormulaRepair

import FormulaRepair.Data
import FormulaRepair.Proofs.Cache.Renderings
import Mathlib.Data.List.Dedup
import Mathlib.Data.List.DropRight

/-! # Which verdicts a cache keeps

A cache is used in any way: verdicts are put into it and looked up, and it is cleared. Whatever has
been done with it, it holds the samples that were put last, as many as it has room for, and each with
the verdict that was put for it last. A sample that is put again thereby becomes the most recent one
and drives out no other sample, and one that was driven out may come back.
-/

namespace FormulaRepair.Cache

/-- What is done with a cache. Whether a formula is displayed may be told by any value. -/
inductive Use
  | put (latex : Text) (display : Data) (verdict : Verdict)
  | get (latex : Text) (display : Data)
  | contains (sample : Sample)
  | size
  | clear

/-- What comes back from it. -/
inductive Answer
  | done
  | verdict (kept : Option Verdict)
  | found (found : Bool)
  | count (number : Nat)
deriving DecidableEq

/-- A formula is displayed when the value for it is filled. -/
def keyOf (latex : Text) (display : Data) : Sample := ⟨latex, display.isFilled⟩

namespace Use

/-- Use a cache. -/
def perform : Use → StateM Cache Answer
  | put latex display verdict => do
      modify (·.put (keyOf latex display) verdict)
      return .done
  | get latex display => return .verdict ((← MonadState.get).get? (keyOf latex display))
  | contains sample => return .found ((← MonadState.get).contains sample)
  | size => return .count (← MonadState.get).size
  | clear => do
      modify Cache.clear
      return .done

/-- Does the use clear the cache? -/
def isClear : Use → Bool
  | clear => true
  | put .. | get .. | contains _ | size => false

/-- What is put into the cache. -/
def put? : Use → Option (Sample × Verdict)
  | put latex display verdict => some (keyOf latex display, verdict)
  | get .. | contains _ | size | clear => none

end Use

/-- Use a cache in one way after the other. -/
def performAll (cache : Cache) (uses : List Use) : Cache :=
  uses.foldl (fun cache use => (use.perform cache).2) cache

/-- What has been put since the cache was last cleared, in order. -/
def putsSinceClear (uses : List Use) : List (Sample × Verdict) :=
  (uses.rtakeWhile fun use => !use.isClear).filterMap Use.put?

private theorem putsSinceClear_concat (uses : List Use) (use : Use) :
    putsSinceClear (uses ++ [use]) =
      if use.isClear then [] else putsSinceClear uses ++ use.put?.toList := by
  rw [putsSinceClear, List.rtakeWhile_concat]
  cases use <;> simp [Use.isClear, Use.put?, putsSinceClear]

section Recent

variable {Key Value : Type}

theorem length_rtake (keys : List Key) (room : Nat) :
    (keys.rtake room).length = min room keys.length := by
  rw [List.rtake, List.length_drop]
  omega

private theorem rtake_append_of_le_length {first second : List Key} {room : Nat}
    (enough : room ≤ second.length) : (first ++ second).rtake room = second.rtake room := by
  have fits : room ≤ second.reverse.length := by rwa [List.length_reverse]
  rw [List.rtake_eq_reverse_take_reverse, List.reverse_append, List.take_append_of_le_length fits,
    ← List.rtake_eq_reverse_take_reverse]

private theorem mem_rtake_cons {key first : Key} {later : List Key} {room : Nat} :
    key ∈ (first :: later).rtake room ↔
      key = first ∧ later.length < room ∨ key ∈ later.rtake room := by
  rw [List.rtake, List.rtake, List.length_cons]
  by_cases fits : later.length < room
  · rw [Nat.sub_eq_zero_of_le fits, Nat.sub_eq_zero_of_le fits.le]
    simp [fits]
  · have shorter : later.length + 1 - room = later.length - room + 1 := by omega
    simp [shorter, fits]

variable [DecidableEq Key]

/-- The value that was put last for a key. -/
def lastPut? (puts : List (Key × Value)) (key : Key) : Option Value :=
  (puts.reverse.find? (·.1 == key)).map Prod.snd

private theorem lastPut?_concat (puts : List (Key × Value)) (added : Key × Value) (key : Key) :
    lastPut? (puts ++ [added]) key = if added.1 = key then some added.2 else lastPut? puts key := by
  rw [lastPut?, List.reverse_append, List.reverse_singleton, List.singleton_append]
  by_cases same : added.1 = key
  · rw [List.find?_cons_of_pos (by simpa using same), if_pos same]
    rfl
  · rw [List.find?_cons_of_neg (by simpa using same), if_neg same]
    rfl

/-- The last of equal keys counts for their order. -/
theorem dedup_concat (keys : List Key) (added : Key) :
    (keys ++ [added]).dedup = keys.dedup.filter (· != added) ++ [added] := by
  induction keys with
  | nil => rfl
  | cons key later ih =>
    rw [List.cons_append]
    by_cases again : key ∈ later
    · rw [List.dedup_cons_of_mem again, List.dedup_cons_of_mem (List.mem_append_left _ again), ih]
    · rw [List.dedup_cons_of_notMem again]
      by_cases same : key = added
      · subst same
        rw [List.dedup_cons_of_mem (by simp), ih, List.filter_cons_of_neg (by simp)]
      · rw [List.dedup_cons_of_notMem (by simp [again, same]), ih,
          List.filter_cons_of_pos (by simpa using same), List.cons_append]

/-- When the oldest keys have given way already, the same ones are left once another key is put. -/
theorem rtake_filter_rtake {keys : List Key} (distinct : keys.Nodup) (room : Nat) (added : Key) :
    ((keys.rtake room).filter (· != added) ++ [added]).rtake room =
      (keys.filter (· != added) ++ [added]).rtake room := by
  by_cases fits : keys.length ≤ room
  · have all : keys.rtake room = keys := by
      rw [List.rtake, Nat.sub_eq_zero_of_le fits, List.drop_zero]
    rw [all]
  · have latest : (keys.rtake room).Nodup := distinct.sublist (List.drop_sublist _ keys)
    -- Of distinct keys, at most one is the key that is put, and it comes back behind the others.
    have enough : room ≤ ((keys.rtake room).filter (· != added) ++ [added]).length := by
      have kept := List.le_length_erase (a := added) (l := keys.rtake room)
      rw [latest.erase_eq_filter, length_rtake] at kept
      rw [List.length_append, List.length_singleton]
      omega
    have split : keys.take (keys.length - room) ++ keys.rtake room = keys :=
      List.take_append_drop ..
    conv_rhs => rw [← split, List.filter_append, List.append_assoc]
    exact (rtake_append_of_le_length enough).symm

/-- A key is among the last ones when fewer others than there is room for came behind it. -/
theorem mem_rtake_dedup_iff {key : Key} {keys : List Key} {room : Nat} :
    key ∈ keys.dedup.rtake room ↔
      ∃ before after, keys = before ++ key :: after ∧ key ∉ after ∧ after.dedup.length < room := by
  induction keys with
  | nil => simp
  | cons first later ih =>
    have deeper : (∃ before after, first :: later = before ++ key :: after ∧ key ∉ after ∧
          after.dedup.length < room) ↔
        (key = first ∧ key ∉ later ∧ later.dedup.length < room) ∨
          ∃ before after, later = before ++ key :: after ∧ key ∉ after ∧
            after.dedup.length < room := by
      constructor
      · rintro ⟨before, after, same, last, few⟩
        cases before with
        | nil =>
          cases same
          exact .inl ⟨rfl, last, few⟩
        | cons head before =>
          cases same
          exact .inr ⟨before, after, rfl, last, few⟩
      · rintro (⟨rfl, last, few⟩ | ⟨before, after, rfl, last, few⟩)
        · exact ⟨[], later, rfl, last, few⟩
        · exact ⟨first :: before, after, rfl, last, few⟩
    rw [deeper, ← ih]
    by_cases again : first ∈ later
    · rw [List.dedup_cons_of_mem again, or_iff_right]
      rintro ⟨rfl, new, -⟩
      exact new again
    · rw [List.dedup_cons_of_notMem again, mem_rtake_cons]
      refine or_congr_left (and_congr_right fun same => ?_)
      subst same
      exact (and_iff_right again).symm

end Recent

/-- The cache holds the samples that were put last, as far as it has room, and each with the verdict
that was put for it last. -/
structure Remembers (cache : Cache) (puts : List (Sample × Verdict)) : Prop where
  samples_eq : cache.samples = (puts.map Prod.fst).dedup.rtake cache.capacity
  latest : ∀ entry ∈ cache.entries, lastPut? puts entry.1 = some entry.2

namespace Remembers

variable {cache : Cache} {puts : List (Sample × Verdict)}

theorem of_empty (empty : cache.entries = []) : cache.Remembers [] where
  samples_eq := by simp [samples, empty]
  latest entry member := by
    rw [empty] at member
    cases member

theorem put (remembers : cache.Remembers puts) (sample : Sample) (verdict : Verdict) :
    (cache.put sample verdict).Remembers (puts ++ [(sample, verdict)]) where
  samples_eq := by
    rw [samples_put, remembers.samples_eq, List.map_append, List.map_singleton, dedup_concat]
    exact rtake_filter_rtake (List.nodup_dedup _) cache.capacity sample
  latest entry member := by
    rw [lastPut?_concat]
    rcases List.mem_append.mp (List.mem_of_mem_drop member) with old | new
    · obtain ⟨kept, other⟩ := List.mem_filter.mp old
      rw [if_neg (Ne.symm (bne_iff_ne.mp other))]
      exact remembers.latest entry kept
    · rw [List.mem_singleton.mp new, if_pos rfl]

private theorem get?_eq (remembers : cache.Remembers puts) (sample : Sample) :
    cache.get? sample =
      if sample ∈ (puts.map Prod.fst).dedup.rtake cache.capacity then lastPut? puts sample
      else none := by
  rw [← remembers.samples_eq]
  split
  · next listed =>
    cases found : cache.get? sample with
    | none => exact absurd listed (get?_eq_none_iff.mp found)
    | some verdict =>
      obtain ⟨entry, here, rfl⟩ := Option.map_eq_some_iff.mp found
      have same : entry.1 = sample := by simpa using List.find?_some here
      rw [← same]
      exact (remembers.latest entry (List.mem_of_find?_eq_some here)).symm
  · next absent => exact get?_eq_none_iff.mpr absent

private theorem contains_eq (remembers : cache.Remembers puts) (sample : Sample) :
    cache.contains sample =
      decide (sample ∈ (puts.map Prod.fst).dedup.rtake cache.capacity) := by
  rw [← remembers.samples_eq, contains, Bool.eq_iff_iff, decide_eq_true_iff, Option.isSome_iff_ne_none,
    ne_eq, get?_eq_none_iff, not_not]

private theorem size_eq (remembers : cache.Remembers puts) :
    cache.size = min cache.capacity (puts.map Prod.fst).dedup.length := by
  rw [← length_rtake, ← remembers.samples_eq, samples, List.length_map, size]

end Remembers

/-- What one use does to the cache: what has been put since it was cleared is all that counts. -/
theorem Remembers.perform {cache : Cache} {uses : List Use}
    (remembers : cache.Remembers (putsSinceClear uses)) (use : Use) :
    (use.perform cache).2.Remembers (putsSinceClear (uses ++ [use])) ∧
      (use.perform cache).2.capacity = cache.capacity := by
  rw [putsSinceClear_concat]
  cases use with
  | put latex display verdict => exact ⟨remembers.put _ verdict, rfl⟩
  | clear => exact ⟨.of_empty rfl, rfl⟩
  | get latex display =>
    rw [Use.put?, Option.toList_none, List.append_nil]
    exact ⟨remembers, rfl⟩
  | contains sample =>
    rw [Use.put?, Option.toList_none, List.append_nil]
    exact ⟨remembers, rfl⟩
  | size =>
    rw [Use.put?, Option.toList_none, List.append_nil]
    exact ⟨remembers, rfl⟩

/-- By induction on the uses, the last one taken off. -/
theorem remembers_performAll (wanted : Int) (uses : List Use) :
    ((ofCapacity wanted).performAll uses).Remembers (putsSinceClear uses) ∧
      ((ofCapacity wanted).performAll uses).capacity = (max 1 wanted).toNat := by
  induction uses using List.reverseRecOn with
  | nil =>
    refine ⟨.of_empty rfl, ?_⟩
    change max 1 wanted.toNat = (max 1 wanted).toNat
    omega
  | append_singleton uses use ih =>
    obtain ⟨remembers, room⟩ := ih
    obtain ⟨still, same⟩ := remembers.perform use
    rw [performAll, List.foldl_append]
    exact ⟨still, same.trans room⟩

/-- Whatever has been done with a cache, it holds the samples that were put last since it was cleared:
those behind whose last put came fewer other samples than it has room for. There are as many of them
as there is room for, or as were put, and each has the verdict that was put for it last. To look
something up tells this and changes nothing. -/
theorem keeps_most_recent (wanted : Int) (uses : List Use) :
    let room := (max 1 wanted).toNat
    let cache := (ofCapacity wanted).performAll uses
    let puts := putsSinceClear uses
    let recent := (puts.map Prod.fst).dedup
    cache.samples = recent.rtake room ∧
    (∀ sample, sample ∈ recent.rtake room ↔
      ∃ before after, puts.map Prod.fst = before ++ sample :: after ∧ sample ∉ after ∧
        after.dedup.length < room) ∧
    Use.size.perform cache = (.count (min room recent.length), cache) ∧
    (∀ sample, (Use.contains sample).perform cache =
      (.found (sample ∈ recent.rtake room), cache)) ∧
    ∀ latex display, (Use.get latex display).perform cache =
      (.verdict (if keyOf latex display ∈ recent.rtake room then
        lastPut? puts (keyOf latex display) else none), cache) := by
  intro room cache puts recent
  obtain ⟨remembers, capacity⟩ := remembers_performAll wanted uses
  have samples_eq := remembers.samples_eq
  have size_eq := remembers.size_eq
  have contains_eq := remembers.contains_eq
  have get?_eq := remembers.get?_eq
  rw [capacity] at samples_eq size_eq contains_eq get?_eq
  refine ⟨samples_eq, fun sample => mem_rtake_dedup_iff, ?_, fun sample => ?_,
    fun latex display => ?_⟩
  · exact congrArg (fun number => (Answer.count number, cache)) size_eq
  · exact congrArg (fun found => (Answer.found found, cache)) (contains_eq sample)
  · exact congrArg (fun kept => (Answer.verdict kept, cache)) (get?_eq (keyOf latex display))

end FormulaRepair.Cache

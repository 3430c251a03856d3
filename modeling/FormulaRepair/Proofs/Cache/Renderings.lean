import FormulaRepair.Proofs.Validation
import Mathlib.Data.List.Nodup

/-! # When a sample is rendered

The samples in a cache are those that were rendered last, as many as there is room for: putting a
verdict makes its sample the latest, looking one up moves nothing, and a sample in the cache is not
rendered. So a validation renders its sample exactly when it is not among these, and what it answers
is the verdict on the outcome, rendered or not. Renderings are counted by the renderer itself, which
keeps a record of what it is asked about.
-/

namespace FormulaRepair

/-- A state with a record of the samples rendered on it, the latest first. The record is kept for
the sake of reasoning; no operation reads it. -/
structure Recorded (state : Type) where
  whole : state
  rendered : List Sample := []

instance (part state : Type) [Holds part state] : Holds part (Recorded state) where
  view recorded := Holds.view recorded.whole
  replace value recorded := { recorded with whole := Holds.replace value recorded.whole }
  view_replace _ _ := Holds.view_replace _ _
  replace_view recorded := congrArg (Recorded.mk · recorded.rendered) (Holds.replace_view _)
  replace_replace _ _ recorded :=
    congrArg (Recorded.mk · recorded.rendered) (Holds.replace_replace _ _ _)

/-- The same renderer, with a record of the samples that it is asked about. -/
def Renderer.recorded {state : Type} (renderer : Renderer state) : Renderer (Recorded state) :=
  fun sample before =>
    let (outcome, whole) := renderer sample before.whole
    (outcome, { whole := whole, rendered := sample :: before.rendered })

namespace Cache

/-- The samples with a verdict, from the one put first to the one put last. -/
def samples (cache : Cache) : List Sample := cache.entries.map Prod.fst

theorem get?_eq_none_iff {cache : Cache} {sample : Sample} :
    cache.get? sample = none ↔ sample ∉ cache.samples := by
  simp only [get?, Option.map_eq_none_iff, List.find?_eq_none, beq_iff_eq, samples, List.mem_map,
    not_exists, not_and]

/-- A verdict goes behind the others; the oldest ones give way to it. -/
theorem samples_put (cache : Cache) (sample : Sample) (verdict : Verdict) :
    (cache.put sample verdict).samples =
      let samples := cache.samples.filter (· != sample) ++ [sample]
      samples.drop (samples.length - cache.capacity) := by
  simp only [samples, put, List.map_drop, List.map_append, List.filter_map, List.length_append,
    List.length_map, List.map_cons, List.map_nil, List.length_cons, List.length_nil]
  rfl

/-- The cache holds the verdicts on what was rendered last, as far as it has room, and no sample
occurs twice among as many renderings in a row as it has room for. -/
structure Follows (cache : Cache) (outcome : Sample → Except Refusal Text)
    (rendered : List Sample) : Prop where
  truthful : cache.Truthful outcome
  samples_eq : cache.samples = (rendered.take cache.capacity).reverse
  apart : ∀ window, window <:+: rendered → window.length ≤ cache.capacity → window.Nodup

variable {cache : Cache} {outcome : Sample → Except Refusal Text} {rendered : List Sample}

theorem Follows.get?_eq_none_iff (follows : cache.Follows outcome rendered) (sample : Sample) :
    cache.get? sample = none ↔ sample ∉ rendered.take cache.capacity := by
  rw [Cache.get?_eq_none_iff, follows.samples_eq, List.mem_reverse]

/-- Of the latest ones and one more, the latest are left when the oldest give way. -/
private theorem drop_reverse_cons_take (sample : Sample) (rendered : List Sample) (room : Nat) :
    let latest := (sample :: rendered.take room).reverse
    latest.drop (latest.length - room) = ((sample :: rendered).take room).reverse := by
  intro latest
  have kept : (sample :: rendered.take room).take room = (sample :: rendered).take room := by
    cases room with
    | zero => rfl
    | succ room => simp [List.take_take]
  rw [List.length_reverse, List.drop_reverse, ← kept]
  congr 1
  rw [List.take_eq_take_iff]
  omega

/-- A sample that is not among the latest ones may follow them. -/
private theorem nodup_of_infix_cons {sample : Sample} {room : Nat}
    (apart : ∀ window, window <:+: rendered → window.length ≤ room → window.Nodup)
    (new : sample ∉ rendered.take room) {window : List Sample}
    (within : window <:+: sample :: rendered) (short : window.length ≤ room) : window.Nodup := by
  rcases List.infix_cons_iff.mp within with front | later
  · rcases List.prefix_cons_iff.mp front with rfl | ⟨tail, rfl, earlier⟩
    · exact List.nodup_nil
    · have fits : tail.length ≤ room := by simp only [List.length_cons] at short; omega
      have latest : tail <+: rendered.take room := List.prefix_take_iff.mpr ⟨earlier, fits⟩
      exact List.nodup_cons.mpr ⟨fun member => new (latest.mem member),
        apart tail earlier.isInfix fits⟩
  · exact apart window later short

/-- What is rendered because its verdict was missing, and then put into the cache, is the latest. -/
theorem Follows.put (follows : cache.Follows outcome rendered) {sample : Sample}
    (missing : cache.get? sample = none) :
    (cache.put sample (Verdict.ofRendering (outcome sample))).Follows outcome
      (sample :: rendered) where
  truthful := follows.truthful.put sample
  samples_eq := by
    have new := Cache.get?_eq_none_iff.mp missing
    have kept : cache.samples.filter (· != sample) = cache.samples :=
      List.filter_eq_self.mpr fun other member => by
        simpa using fun same : other = sample => new (same ▸ member)
    have appended : cache.samples ++ [sample] =
        (sample :: rendered.take cache.capacity).reverse := by
      rw [follows.samples_eq, List.reverse_cons]
    rw [samples_put, kept, appended]
    exact drop_reverse_cons_take sample rendered cache.capacity
  apart window :=
    nodup_of_infix_cons follows.apart ((follows.get?_eq_none_iff sample).mp missing)

end Cache

private theorem Cache.follows_ofCapacity (outcome : Sample → Except Refusal Text) (wanted : Int) :
    (Cache.ofCapacity wanted).Follows outcome [] where
  truthful entry member := by cases member
  samples_eq := by simp [samples, ofCapacity]
  apart window within _ := by rw [List.infix_nil.mp within]; exact List.nodup_nil

variable {state : Type} [Holds Cache state] {renderer : Renderer state}
  {outcome : Sample → Except Refusal Text}

/-- The verdict on an outcome tells the markup, or a message and no markup. -/
theorem Verdict.ofRendering_cases (rendering : Except Refusal Text) :
    match rendering with
    | .ok markup =>
        Verdict.ofRendering rendering =
          { success := true, errorMessage := none, markup := some markup }
    | .error _ =>
        (Verdict.ofRendering rendering).success = false ∧
          (Verdict.ofRendering rendering).markup = none ∧
          ∃ message, (Verdict.ofRendering rendering).errorMessage = some message ∧
            message ≠ [] := by
  rcases rendering with (message | fault) | markup
  · refine ⟨rfl, rfl, _, rfl, ?_⟩
    split
    · decide
    · next told => simpa using told
  · exact ⟨rfl, rfl, _, rfl, by simp [Fault.report]⟩
  · rfl

/-- A validation answers with the verdict on the outcome, and renders what is not among the latest.
-/
theorem Renderer.validate_recorded
    (settled : ∀ sample whole, (renderer sample whole).1 = outcome sample)
    (leaves : ∀ sample, Within (Kept Cache) (renderer sample)) {whole : Recorded state}
    (follows : (Holds.view whole : Cache).Follows outcome whole.rendered) (sample : Sample) :
    let room := (Holds.view whole : Cache).capacity
    let call := renderer.recorded.validate sample whole
    call.1 = Verdict.ofRendering (outcome sample) ∧
      call.2.rendered =
        (if sample ∈ whole.rendered.take room then whole.rendered else sample :: whole.rendered) ∧
      (Holds.view call.2 : Cache).capacity = room ∧
      (Holds.view call.2 : Cache).Follows outcome call.2.rendered := by
  cases kept : (Holds.view whole : Cache).get? sample with
  | some verdict =>
    have listed : sample ∈ whole.rendered.take (Holds.view whole : Cache).capacity := by
      by_contra absent
      rw [(follows.get?_eq_none_iff sample).mpr absent] at kept
      cases kept
    rw [Renderer.validate_of_kept renderer.recorded kept]
    exact ⟨follows.truthful.get? kept, (if_pos listed).symm, rfl, follows⟩
  | none =>
    have new := (follows.get?_eq_none_iff sample).mp kept
    have sameCache : (Holds.view (renderer.recorded sample whole).2 : Cache) = Holds.view whole :=
      leaves sample whole.whole
    have sameOutcome : (renderer.recorded sample whole).1 = outcome sample :=
      settled sample whole.whole
    rw [Renderer.validate_of_missing renderer.recorded kept]
    dsimp only
    rw [sameOutcome, sameCache, Holds.view_replace]
    exact ⟨rfl, (if_neg new).symm, rfl, follows.put kept⟩

/-- The cache keeps following the renderings, by induction on the validations. -/
theorem Renderer.mapM_validate_recorded
    (settled : ∀ sample whole, (renderer sample whole).1 = outcome sample)
    (leaves : ∀ sample, Within (Kept Cache) (renderer sample)) {whole : Recorded state}
    (follows : (Holds.view whole : Cache).Follows outcome whole.rendered) (samples : List Sample) :
    let run := samples.mapM renderer.recorded.validate whole
    run.1 = samples.map (fun sample => Verdict.ofRendering (outcome sample)) ∧
      (Holds.view run.2 : Cache).capacity = (Holds.view whole : Cache).capacity ∧
      (Holds.view run.2 : Cache).Follows outcome run.2.rendered := by
  induction samples generalizing whole with
  | nil => exact ⟨rfl, rfl, follows⟩
  | cons sample samples ih =>
    obtain ⟨verdict, -, room, still⟩ := validate_recorded settled leaves follows sample
    obtain ⟨verdicts, roomLater, stillLater⟩ := ih still
    rw [List.mapM_cons]
    refine ⟨?_, roomLater.trans room, stillLater⟩
    rw [List.map_cons, ← verdict, ← verdicts]
    rfl

/-- The cache is invisible, and nothing is rendered that it still holds. After any validations on a
cache that was empty, each validation answers with the verdict on the outcome: the markup, or else a
message that is not empty. It renders its sample exactly when this is not among those rendered last,
as many as the cache has room for; so among that many renderings in a row no sample occurs twice. -/
theorem validate_renders_missing (wanted : Int)
    (settled : ∀ sample whole, (renderer sample whole).1 = outcome sample)
    (leaves : ∀ sample, Within (Kept Cache) (renderer sample)) {start : Recorded state}
    (empty : (Holds.view start : Cache) = Cache.ofCapacity wanted) (unused : start.rendered = [])
    (earlier : List Sample) (sample : Sample) :
    let room := (max 1 wanted).toNat
    let run := earlier.mapM renderer.recorded.validate start
    let call := renderer.recorded.validate sample run.2
    run.1 = earlier.map (fun sample => Verdict.ofRendering (outcome sample)) ∧
    call.1 = Verdict.ofRendering (outcome sample) ∧
    (match outcome sample with
      | .ok markup => call.1 = { success := true, errorMessage := none, markup := some markup }
      | .error _ => call.1.success = false ∧ call.1.markup = none ∧
          ∃ message, call.1.errorMessage = some message ∧ message ≠ []) ∧
    call.2.rendered =
      (if sample ∈ run.2.rendered.take room then run.2.rendered
        else sample :: run.2.rendered) ∧
    ∀ window, window <:+: call.2.rendered → window.length ≤ room → window.Nodup := by
  intro room run call
  have follows : (Holds.view start : Cache).Follows outcome start.rendered := by
    rw [empty, unused]
    exact Cache.follows_ofCapacity outcome wanted
  have roomStart : (Holds.view start : Cache).capacity = room := by
    rw [empty]
    change max 1 wanted.toNat = (max 1 wanted).toNat
    omega
  obtain ⟨verdicts, roomRun, followsRun⟩ :=
    Renderer.mapM_validate_recorded settled leaves follows earlier
  have roomReached : (Holds.view run.2 : Cache).capacity = room := roomRun.trans roomStart
  obtain ⟨verdict, rendered, roomCall, followsCall⟩ :=
    Renderer.validate_recorded settled leaves followsRun sample
  refine ⟨verdicts, verdict, ?_, ?_, fun window within short => ?_⟩
  · change call.1 = _ at verdict
    rw [verdict]
    exact Verdict.ofRendering_cases (outcome sample)
  · rw [← roomReached]
    exact rendered
  · exact followsCall.apart window within (by rw [roomCall, roomReached]; exact short)

/-- A renderer that rejects one formula without a message and has markup for all others. -/
def curt : Renderer Cache := fun sample =>
  pure (if sample.latex = ['b'] then .error (.rejected []) else .ok sample.latex)

/-- On a cache with room for two verdicts, the first sample has to be rendered again once two others
have been, although it was looked up in between. -/
theorem validate_renders_missing_again :
    let sample (latex : Char) : Sample := ⟨[latex], false⟩
    let earlier := [sample 'a', sample 'b', sample 'a', sample 'c']
    let start : Recorded Cache := { whole := Cache.ofCapacity 2 }
    let run := earlier.mapM curt.recorded.validate start
    (curt.recorded.validate (sample 'b') run.2).2.rendered =
        [sample 'c', sample 'b', sample 'a'] ∧
      (curt.recorded.validate (sample 'b') run.2).1 =
        { success := false, errorMessage := some Refusal.silentMessage } ∧
      (curt.recorded.validate (sample 'a') run.2).2.rendered =
        [sample 'a', sample 'c', sample 'b', sample 'a'] := by
  intro sample earlier start run
  have settled (sample : Sample) (whole : Cache) :
      (curt sample whole).1 = (curt sample default).1 := rfl
  have empty : (Holds.view start : Cache) = Cache.ofCapacity 2 := rfl
  have call := validate_renders_missing 2 settled (fun _ _ => rfl) empty rfl earlier
  obtain ⟨-, verdict, -, recalled, -⟩ := call (sample 'b')
  obtain ⟨-, -, -, again, -⟩ := call (sample 'a')
  refine ⟨?_, ?_, ?_⟩
  · rw [recalled]
    decide +kernel
  · rw [verdict]
    decide +kernel
  · rw [again]
    decide +kernel

end FormulaRepair

import FormulaRepair.Proofs.Desk.Batch
import FormulaRepair.Proofs.Desk.Run
import FormulaRepair.Proofs.Desk.Undisturbed

/-! # What a provider is shown

A request shows a formula with the text around it, as far as the document reaches on either side.
The formula that a repair is given may be any, but a request is only sent for one that the registry
knows by its id, its span and its text, and the registry has formulas of the document on the desk.
So the span is cut out of this document and nothing else. In a batch this goes for every turn: until
another epoch begins, the document is the one that was there at first.
-/

namespace FormulaRepair

variable {World problem : Type}

/-- A text is what lies beyond reach of a span, what lies within it, and the span. -/
theorem Text.eq_around (before span after : Text) (reach : Nat) :
    before ++ (span ++ after) = before.take (before.length - reach) ++
      ((before.drop (before.length - reach) ++ span ++ after.take reach) ++ after.drop reach) := by
  simp only [List.append_assoc, List.take_append_drop]
  rw [← List.append_assoc (before.take _), List.take_append_drop]

/-- The excerpt around a span is the span with what lies within reach of it. -/
theorem Text.excerpt_append (before span after : Text) (reach : Nat) :
    Text.excerpt (before ++ (span ++ after)) before.length (before ++ span).length reach =
      before.drop (before.length - reach) ++ span ++ after.take reach := by
  have start : max 0 ((before.length : Int) - reach) =
      (before.take (before.length - reach)).length := by
    rw [List.length_take]
    omega
  have stop : min ((before ++ (span ++ after)).length : Int) ((before ++ span).length + reach) =
      (before.take (before.length - reach) ++
        (before.drop (before.length - reach) ++ span ++ after.take reach)).length := by
    simp only [List.length_append, List.length_take, List.length_drop]
    omega
  rw [excerpt, start, stop, eq_around before span after reach, slice_append]

/-- The request shows the formula in its surroundings: a piece of the content with the span in it
and, on either side, as many characters as the setting asks for or the content has. -/
structure RepairRequest.Shows (request : RepairRequest) (content : Text) (setting : Int)
    (formula : Formula) : Prop where
  context : ∃ far near close rest,
    content = far ++ ((near ++ formula.rawWithDelimiters ++ close) ++ rest) ∧
    request.context = near ++ formula.rawWithDelimiters ++ close ∧
    formula.startOffset = (far ++ near).length ∧
    formula.endOffset = (far ++ near ++ formula.rawWithDelimiters).length ∧
    (near.length : Int) = min (max 0 setting) formula.startOffset ∧
    (close.length : Int) = min (max 0 setting) (content.length - formula.endOffset)
  latex : request.latex = formula.raw
  message_ne_nil : request.errorMessage ≠ []
  message_eq : ∀ message, formula.errorMessage = some message → message ≠ [] →
    request.errorMessage = message
  delimiterName : request.delimiterName = formula.delimiter.name

/-- A request for a formula that stands in the content shows it. -/
theorem RepairRequest.shows_about {before after : Text} {formula : Formula} (setting : Int)
    (start : formula.startOffset = before.length)
    (stop : formula.endOffset = (before ++ formula.rawWithDelimiters).length) :
    (about (before ++ (formula.rawWithDelimiters ++ after)) formula
      (Repairer.contextSizeOf setting)).Shows
        (before ++ (formula.rawWithDelimiters ++ after)) setting formula where
  context := by
    generalize sized : Repairer.contextSizeOf setting = reach
    have size : (reach : Int) = max 0 setting := by
      rw [← sized, Repairer.contextSizeOf]
      omega
    refine ⟨before.take (before.length - reach), before.drop (before.length - reach),
      after.take reach, after.drop reach, Text.eq_around .., ?_, ?_, ?_, ?_, ?_⟩
    · rw [about, start, stop, Text.excerpt_append]
    · rw [List.take_append_drop, start]
    · rw [List.take_append_drop, stop]
    · rw [start, ← size, List.length_drop]
      omega
    · rw [stop, ← size, List.length_take]
      simp only [List.length_append]
      omega
  latex := rfl
  message_ne_nil := by
    rw [about]
    dsimp only
    split
    · next message _ =>
      cases message with
      | nil => decide
      | cons c message => simp
    · decide
  message_eq message told nonempty := by
    rw [about]
    simp [told, nonempty]
  delimiterName := rfl

section Requests

variable (repairer : Repairer World problem)

/-- The requests that the repair of a formula sends. -/
def Repairer.requestsFor (formula : Formula) (epoch : Option Int) (desk : Desk World) :
    List RepairRequest :=
  (repairer.minuted.repair formula epoch desk.withMinutes).2.outside.requests

/-- A repair sends one request for a formula that is fresh and free, and none for any other. -/
theorem Repairer.requestsFor_eq (formula : Formula) (epoch : Option Int) (desk : Desk World) :
    repairer.requestsFor formula epoch desk =
      if desk.isFresh formula (epoch.getD desk.document.epoch) && !desk.isInFlight formula.id then
        [.about desk.document.loaded formula repairer.contextSize] else [] := by
  have ends := repairer.minuted.ends_repair formula epoch desk.withMinutes
  have due (fresh : desk.isFresh formula (epoch.getD desk.document.epoch) = true)
      (free : desk.isInFlight formula.id = false) :
      (desk.isFresh formula (epoch.getD desk.document.epoch) &&
        !desk.isInFlight formula.id) = true := by
    rw [fresh, free]
    rfl
  rw [requestsFor]
  generalize (repairer.minuted.repair formula epoch desk.withMinutes).1 = result at ends
  generalize (repairer.minuted.repair formula epoch desk.withMinutes).2 = left at ends ⊢
  cases ends with
  | outdated old =>
    have undue : desk.isFresh formula (epoch.getD desk.document.epoch) = false := old
    rw [undue]
    rfl
  | running fresh running =>
    have marked : desk.isInFlight formula.id = true := running
    rw [marked, Bool.not_true, Bool.and_false]
    rfl
  | failed fresh free => rw [if_pos (due fresh free)]; rfl
  | overtaken fresh free => rw [if_pos (due fresh free)]; rfl
  | @proposed reply fix proposed fresh free _ _ proposes =>
    have sends := within_propose (fun _ _ => rfl) (fun _ _ => rfl)
      repairer.within_minuted_renderer formula.id reply.latex
      (repairer.minuted.provenance reply) (repairer.minuted.answer formula desk.withMinutes).2
    rw [proposes] at sends
    rw [if_pos (due fresh free)]
    exact sends

end Requests

namespace Desk

section Marks

variable {Outside : Type}

/-- The marks of running repairs are as they were before. -/
def SameMarks (before after : Desk Outside) : Prop := after.inFlight = before.inFlight

instance : IsPreorder (Desk Outside) SameMarks where
  refl _ := rfl
  trans _ _ _ earlier later := later.trans earlier

private theorem sameMarks_unmark {desk left : Desk Outside} {id : Text}
    (free : desk.isInFlight id = false) (kept : SameMarks (desk.mark id) left) :
    SameMarks desk (left.unmark id) := by
  have removed : (left.unmark id).inFlight = ((desk.mark id).unmark id).inFlight :=
    congrArg (List.filter (· != id)) kept
  rw [SameMarks, removed, unmark_mark free]

/-- A repair takes its mark away again. -/
theorem sameMarks_repair {repairer : Repairer Outside problem}
    (renders : ∀ sample, Within SameMarks (repairer.renderer sample))
    (provides : ∀ request, Within SameMarks (repairer.provider.repair request)) (formula : Formula)
    (epoch : Option Int) : Within SameMarks (repairer.repair formula epoch) := by
  intro desk
  have asked : SameMarks (desk.mark formula.id) (repairer.answer formula desk).2 := provides _ _
  have ends := repairer.ends_repair formula epoch desk
  generalize (repairer.repair formula epoch desk).1 = result at ends
  generalize (repairer.repair formula epoch desk).2 = left at ends ⊢
  cases ends with
  | outdated => rfl
  | running => rfl
  | failed _ free => exact sameMarks_unmark free asked
  | overtaken _ free => exact sameMarks_unmark free asked
  | @proposed reply fix proposed _ free _ _ proposes =>
    have made := within_propose (fun _ _ => rfl) (fun _ _ => rfl) renders formula.id reply.latex
      (repairer.provenance reply) (repairer.answer formula desk).2
    rw [proposes] at made
    exact sameMarks_unmark free (made.trans asked)

end Marks

section Stays

variable {Outside : Type}

/-- While the epoch stays the same so does the text of the document, and once its formulas have been
found they are there. -/
structure Stays (before after : Desk Outside) : Prop where
  epoch_le : before.document.epoch ≤ after.document.epoch
  loaded_eq : before.document.epoch = after.document.epoch →
    after.document.loaded = before.document.loaded
  found : before.document.epoch = after.document.epoch →
    FoundIn before.document.loaded before.document.formulas →
    FoundIn after.document.loaded after.document.formulas

instance : IsPreorder (Desk Outside) Stays where
  refl _ := ⟨le_refl _, fun _ => rfl, fun _ found => found⟩
  trans first second third earlier later := by
    have least := earlier.epoch_le
    have most := later.epoch_le
    refine ⟨least.trans most, fun same => ?_, fun same found => ?_⟩
    · rw [later.loaded_eq (by omega), earlier.loaded_eq (by omega)]
    · exact later.found (by omega) (earlier.found (by omega) found)

theorem stays_of_document {before after : Desk Outside} (same : after.document = before.document) :
    Stays before after := by
  refine ⟨by rw [same], fun _ => by rw [same], fun _ found => ?_⟩
  rw [same]
  exact found

variable {renderer : Renderer (Desk Outside)}

/-- An analysis keeps formulas of the text that is still the document. -/
theorem stays_analyze (renders : ∀ sample, Within Stays (renderer sample)) :
    Within Stays (analyze renderer) := by
  intro desk
  have checks := within_check (fun _ _ => stays_of_document rfl) (fun _ _ => stays_of_document rfl)
    renders (Scan.formulas desk.document.loaded) desk
  rw [analyze_eq]
  dsimp only
  split
  · exact checks
  · exact checks
  · next formulas answered =>
    split
    · next current =>
      refine ⟨checks.epoch_le, checks.loaded_eq, fun _ _ => ?_⟩
      have found : FoundIn desk.document.loaded formulas :=
        (check_asFound answered).trans (Scan.map_asFound_formulas _)
      rwa [← checks.loaded_eq current.symm] at found
    · exact checks

end Stays

/-- Nothing that is done on a desk gives its formulas up while the epoch stays the same. -/
theorem Action.within_stays {World problem : Type} {repairer : Repairer (Diary World) problem}
    (renders : ∀ sample, Within Stays (repairer.renderer sample))
    (provides : ∀ request, Within Stays (repairer.provider.repair request)) (action : Action) :
    Within Stays (action.perform repairer) := by
  have proposes (id replacement provenance : Text) :
      Within Stays (repairer.renderer.propose id replacement provenance) :=
    within_propose (fun _ _ => stays_of_document rfl) (fun _ _ => stays_of_document rfl) renders
      id replacement provenance
  have repairs := Repairer.within_repair provides proposes fun _ _ => stays_of_document rfl
  cases action with
  | load path content =>
    refine within_modify fun desk => ?_
    have begun : desk.document.epoch ≠ (desk.loadNoted path content).document.epoch :=
      Nat.ne_of_lt (Nat.lt_succ_self _)
    exact ⟨Nat.le_succ _, fun same => absurd same begun, fun same => absurd same begun⟩
  | analyze => exact stays_analyze renders
  | proposeManual id replacement => exact proposes id replacement Fix.manual
  | decide decision => exact within_modify fun desk => stays_of_document rfl
  | repair formula epoch => exact repairs formula epoch
  | repairAll formulas => exact Repairer.within_repairAll repairs formulas
  | applyAccepted =>
    exact within_modify fun desk => ⟨le_refl _, fun _ => rfl, fun _ found => found⟩

theorem Run.stays {World : Type} {before after : Desk (Diary World)} (run : Run before after) :
    Stays before after := by
  induction run with
  | idle same => exact stays_of_document (congrArg Page.document same.page)
  | act action repairer desk _ _ renders provides =>
    have noted (desk : Desk (Diary World)) : Stays desk desk.notePage := stays_of_document rfl
    have performed : Stays desk (action.perform (watched repairer) desk).2 := by
      refine action.within_stays (fun sample desk => ?_) (fun request desk => ?_) desk
      · exact IsTrans.trans _ _ _ (noted desk) (renders sample desk.notePage)
      · exact IsTrans.trans _ _ _ (noted desk) (provides request desk.notePage)
    exact IsTrans.trans _ _ _ performed (noted _)
  | trans _ _ first second => exact IsTrans.trans _ _ _ first second

variable {World : Type} {desk here : Desk (Diary World)} {formula : Formula}

theorem InOrder.page (inOrder : desk.InOrder) : desk.page.InOrder :=
  inOrder _ (List.mem_cons_self ..)

theorem InOrder.foundIn (inOrder : desk.InOrder) (member : formula ∈ desk.document.formulas) :
    FoundIn desk.document.loaded desk.document.formulas := by
  rcases inOrder.page.formulas with none | found
  · have absent : desk.document.formulas = [] := none
    rw [absent] at member
    cases member
  · exact found

/-- The span of a formula that is fresh lies in the document, and is its text. -/
theorem InOrder.exists_split (inOrder : desk.InOrder) {version : Int}
    (fresh : desk.isFresh formula version = true) :
    ∃ before after, desk.document.loaded = before ++ (formula.rawWithDelimiters ++ after) ∧
      formula.startOffset = before.length ∧
      formula.endOffset = (before ++ formula.rawWithDelimiters).length := by
  obtain ⟨known, registered, -, start, stop, raw⟩ := exists_of_isFresh fresh
  obtain ⟨listed, -⟩ := Registry.formula?_eq_some registered
  have member : known ∈ desk.document.formulas := inOrder.page.registry ▸ listed
  rw [← start, ← stop, ← raw]
  obtain ⟨before, content, after, whole, -, places⟩ := (inOrder.foundIn member).exists_split member
  exact ⟨before, after, whole, places⟩

theorem InOrder.shows_about (inOrder : desk.InOrder) {version : Int}
    (fresh : desk.isFresh formula version = true) (setting : Int) :
    (RepairRequest.about desk.document.loaded formula (Repairer.contextSizeOf setting)).Shows
      desk.document.loaded setting formula := by
  obtain ⟨before, after, whole, start, stop⟩ := inOrder.exists_split fresh
  rw [whole]
  exact RepairRequest.shows_about setting start stop

/-- As long as the epoch stays the same, the formulas of a document stay fresh, even when they are
looked for again. -/
theorem InOrder.isFresh_of_stays (inOrder : desk.InOrder) (hereInOrder : here.InOrder)
    (stays : Stays desk here) (same : here.document.epoch = desk.document.epoch)
    (member : formula ∈ desk.document.formulas) :
    here.isFresh formula desk.document.epoch = true := by
  have found := inOrder.foundIn member
  have foundHere := stays.found same.symm found
  have listed : formula.asFound ∈ here.document.formulas.map Formula.asFound := by
    rw [show here.document.formulas.map Formula.asFound = _ from foundHere,
      stays.loaded_eq same.symm, ← found]
    exact List.mem_map_of_mem member
  obtain ⟨known, listed, asFound⟩ := List.mem_map.mp listed
  have distinct := foundHere.nodup_map_id
  have formulas : here.registry.formulas = here.document.formulas := hereInOrder.page.registry
  rw [← formulas] at listed distinct
  simp only [Formula.asFound, Formula.mk.injEq] at asFound
  obtain ⟨id, -, raw, -, start, stop, -⟩ := asFound
  have registered := Registry.formula?_of_mem distinct listed
  rw [id] at registered
  simp [isFresh, knows, registered, same, start, stop, raw]

end Desk

open Desk

namespace Repairer

variable {repairer : Repairer (Diary World) problem} {desk : Desk (Diary World)}

section Batch

variable (renders : ∀ sample desk, Run desk (repairer.renderer sample desk).2)
  (provides : ∀ request desk, Run desk (repairer.provider.repair request desk).2)

include renders provides

theorem keeps_repairAll (formulas : List Formula) : Within Keeps (repairer.repairAll formulas) :=
  within_repairAll (within_repair (fun request desk => (provides request desk).keeps)
    (keeps_propose fun sample desk => (renders sample desk).keeps)
    fun _ _ => SamePage.keeps ⟨rfl, rfl⟩) formulas

theorem stays_repairAll (formulas : List Formula) : Within Stays (repairer.repairAll formulas) :=
  within_repairAll (within_repair (fun request desk => (provides request desk).stays)
    (within_propose (fun _ _ => stays_of_document rfl) (fun _ _ => stays_of_document rfl)
      fun sample desk => (renders sample desk).stays)
    fun _ _ => stays_of_document rfl) formulas

/-- What is sent at the turn of a formula shows it in the document that was there at first. -/
theorem shows_of_turn {setting : Int} (configured : repairer.contextSize = contextSizeOf setting)
    (inOrder : desk.InOrder) (before : List Formula) {formula : Formula}
    {left : Desk (Diary World)} {result : RepairResult problem} {sent : List RepairRequest}
    (turn : Turn repairer desk.document.epoch formula (repairer.repairAll before desk).2 left result
      sent) :
    sent.length ≤ 1 ∧ ∀ request ∈ sent, request.Shows desk.document.loaded setting formula := by
  refine ⟨turn.length_le, fun request member => ?_⟩
  obtain ⟨rfl, due⟩ := turn.of_mem member
  have fresh := (Bool.and_eq_true_iff.mp due).1
  obtain ⟨-, -, same, -⟩ := exists_of_isFresh fresh
  have hereInOrder := (keeps_repairAll renders provides before desk inOrder).1
  have stays := stays_repairAll renders provides before desk
  rw [configured, ← stays.loaded_eq (Int.ofNat_inj.mp same)]
  exact hereInOrder.shows_about fresh setting

/-- The requests of a batch are those of its turns, in order. -/
theorem exists_requests_eq_flatten {setting : Int}
    (configured : repairer.contextSize = contextSizeOf setting) (inOrder : desk.InOrder)
    (formulas : List Formula) :
    ∃ sends : List (List RepairRequest), repairer.requests formulas desk = sends.flatten ∧
      List.Forall₂ (fun formula sent => sent.length ≤ 1 ∧
        ∀ request ∈ sent, request.Shows desk.document.loaded setting formula) formulas sends := by
  induction formulas using List.reverseRecOn with
  | nil => exact ⟨[], rfl, .nil⟩
  | append_singleton before formula ih =>
    obtain ⟨sends, requests, shown⟩ := ih
    obtain ⟨sent, more, turn⟩ := repairer.exists_turn_next before formula desk
    refine ⟨sends ++ [sent], ?_, ?_⟩
    · rw [more, requests, List.flatten_concat]
    · exact List.rel_append shown
        (.cons (shows_of_turn renders provides configured inOrder before turn) .nil)

/-- Of formulas of the document, each that was free at the beginning is asked about at its turn,
until another epoch begins. -/
theorem exists_requests_eq_map (inOrder : desk.InOrder)
    (rendersMarks : ∀ sample, Within SameMarks (repairer.renderer sample))
    (providesMarks : ∀ request, Within SameMarks (repairer.provider.repair request))
    {formulas : List Formula} (members : ∀ formula ∈ formulas, formula ∈ desk.document.formulas) :
    ∃ served left, formulas = served ++ left ∧
      (left ≠ [] → (repairer.repairAll formulas desk).2.document.epoch ≠ desk.document.epoch) ∧
      repairer.requests formulas desk =
        (served.filter fun formula => !desk.isInFlight formula.id).map
          fun formula => .about desk.document.loaded formula repairer.contextSize := by
  induction formulas using List.reverseRecOn with
  | nil => exact ⟨[], [], rfl, fun some => absurd rfl some, rfl⟩
  | append_singleton before formula ih =>
    obtain ⟨members, member⟩ := List.forall_mem_append.mp members
    obtain ⟨served, left, split, ended, requests⟩ := ih members
    by_cases same : (repairer.repairAll before desk).2.document.epoch = desk.document.epoch
    · obtain rfl : left = [] := by_contra fun some => ended some same
      rw [List.append_nil] at split
      subst split
      obtain ⟨sent, more, turn⟩ := repairer.exists_turn_next before formula desk
      have hereInOrder := (keeps_repairAll renders provides before desk inOrder).1
      have stays := stays_repairAll renders provides before desk
      have marks : SameMarks desk (repairer.repairAll before desk).2 :=
        within_repairAll (sameMarks_repair rendersMarks providesMarks) before desk
      have due : (repairer.repairAll before desk).2.isDue formula desk.document.epoch =
          !desk.isInFlight formula.id := by
        rw [isDue, inOrder.isFresh_of_stays hereInOrder stays same (member _ List.mem_cons_self),
          Bool.true_and, isInFlight, marks, isInFlight]
      refine ⟨before ++ [formula], [], (List.append_nil _).symm, fun some => absurd rfl some, ?_⟩
      rw [more, requests, turn.sent_eq, due, stays.loaded_eq same.symm, List.filter_append,
        List.map_append]
      cases free : desk.isInFlight formula.id <;> simp [free]
    · obtain ⟨nothing, rest⟩ := repairer.repairAll_of_other same [formula]
      refine ⟨served, left ++ [formula], ?_, fun _ => ?_, ?_⟩
      · rw [split, List.append_assoc]
      · rw [rest]
        exact same
      · rw [nothing, requests]

/-- When no repair was running and no other epoch has begun, all of them have been asked about. -/
theorem requests_eq_map (inOrder : desk.InOrder)
    (rendersMarks : ∀ sample, Within SameMarks (repairer.renderer sample))
    (providesMarks : ∀ request, Within SameMarks (repairer.provider.repair request))
    {formulas : List Formula} (members : ∀ formula ∈ formulas, formula ∈ desk.document.formulas)
    (idle : desk.inFlight = [])
    (still : (repairer.repairAll formulas desk).2.document.epoch = desk.document.epoch) :
    repairer.requests formulas desk =
      formulas.map fun formula => .about desk.document.loaded formula repairer.contextSize := by
  obtain ⟨served, left, split, ended, requests⟩ :=
    exists_requests_eq_map renders provides inOrder rendersMarks providesMarks members
  obtain rfl : left = [] := by_contra fun some => ended some still
  have free : ∀ formula ∈ served, (!desk.isInFlight formula.id) = true := by
    simp [isInFlight, idle]
  rw [requests, List.filter_eq_self.mpr free, split, List.append_nil]

end Batch

/-- A request of a repair shows its formula in the document on the desk, and so does each request of
a batch, at most one for every turn, in order: the span of the formula, as it stands there, and on
either side as many characters as are asked for or there. The formulas of a document that do not
typeset lie in it one behind the other. A batch of them asks about each, in this order, but for
those that are being repaired already, until it is through or another epoch has begun; whatever else
is done in the meantime must leave the marks of running repairs as they were. So when no repair is
running and no other document is loaded, there is one request for each of them. -/
theorem requests_show {start : Desk (Diary World)} (fresh : start.Fresh) (run : Run start desk)
    {setting : Int} (configured : repairer.contextSize = contextSizeOf setting)
    (renders : ∀ sample desk, Run desk (repairer.renderer sample desk).2)
    (provides : ∀ request desk, Run desk (repairer.provider.repair request desk).2) :
    (∀ formula epoch, ∀ request ∈ repairer.requestsFor formula epoch desk,
      request.Shows desk.document.loaded setting formula) ∧
    (∀ formulas, ∃ sends : List (List RepairRequest),
      repairer.requests formulas desk = sends.flatten ∧
      List.Forall₂ (fun formula sent => sent.length ≤ 1 ∧
        ∀ request ∈ sent, request.Shows desk.document.loaded setting formula) formulas sends) ∧
    (desk.errors.Pairwise fun earlier later => earlier.endOffset ≤ later.startOffset) ∧
    ((∀ sample, Within SameMarks (repairer.renderer sample)) →
      (∀ request, Within SameMarks (repairer.provider.repair request)) →
      ∃ served left, desk.errors = served ++ left ∧
        (left ≠ [] →
          (repairer.repairAll desk.errors desk).2.document.epoch ≠ desk.document.epoch) ∧
        repairer.requests desk.errors desk =
          (served.filter fun formula => !desk.isInFlight formula.id).map
            fun formula => .about desk.document.loaded formula repairer.contextSize) ∧
    ((∀ sample, Within SameMarks (repairer.renderer sample)) →
      (∀ request, Within SameMarks (repairer.provider.repair request)) → desk.inFlight = [] →
      (repairer.repairAll desk.errors desk).2.document.epoch = desk.document.epoch →
      repairer.requests desk.errors desk = desk.errors.map
        fun formula => .about desk.document.loaded formula repairer.contextSize) := by
  have inOrder := (run.keeps fresh.inOrder).1
  have listed : ∀ formula ∈ desk.errors, formula ∈ desk.document.formulas :=
    fun formula member => List.mem_of_mem_filter member
  refine ⟨fun formula epoch request member => ?_,
    exists_requests_eq_flatten renders provides configured inOrder, ?_,
    fun rendersMarks providesMarks =>
      exists_requests_eq_map renders provides inOrder rendersMarks providesMarks listed,
    fun rendersMarks providesMarks =>
      requests_eq_map renders provides inOrder rendersMarks providesMarks listed⟩
  · rw [requestsFor_eq] at member
    split at member
    · next due =>
      rw [List.mem_singleton.mp member, configured]
      exact inOrder.shows_about (Bool.and_eq_true_iff.mp due).1 setting
    · cases member
  · rcases inOrder.page.formulas with none | found
    · have absent : desk.document.formulas = [] := none
      rw [errors, absent]
      exact .nil
    · exact found.pairwise.filter _

/-- A typesetter that refuses every formula, and a provider that never has a replacement. -/
def refusing : Repairer (Diary Unit) Unit where
  renderer _ := pure (.error (.rejected "no".toList))
  provider := { name := [], repair := fun _ => pure (.error ()) }
  contextSize := 2

theorem requests_show_refused :
    let blank : Desk (Diary Unit) :=
      { cache := default, pool := default, pooled := false, outside := { world := () } }
    let desk := [Action.load none "a $x$ and $$y$$".toList, .analyze].foldl
      (fun desk action => (action.perform (watched refusing) desk).2.notePage) blank
    (refusing.requests desk.errors desk).map
        (fun request => (request.latex, request.context, request.errorMessage)) =
      [ ("x".toList, "a $x$ a".toList, "no".toList), ("y".toList, "d $$y$$".toList, "no".toList) ] ∧
    ∀ formula epoch, ∀ request ∈ refusing.requestsFor formula epoch desk,
      request.Shows desk.document.loaded 2 formula := by
  intro blank desk
  have idle (desk : Desk (Diary Unit)) : Run desk desk := .idle ⟨rfl, rfl⟩
  have renders (sample : Sample) (desk : Desk (Diary Unit)) :
      Run desk (refusing.renderer sample desk).2 := idle desk
  have provides (request : RepairRequest) (desk : Desk (Diary Unit)) :
      Run desk (refusing.provider.repair request desk).2 := idle desk
  have run : Run blank desk := run_foldl renders provides _ _
  have configured : refusing.contextSize = contextSizeOf 2 := rfl
  have shown := requests_show ⟨rfl, rfl, rfl, rfl⟩ run configured renders provides
  exact ⟨by decide +kernel, shown.1⟩

end Repairer

end FormulaRepair

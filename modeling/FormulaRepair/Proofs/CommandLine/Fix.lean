import FormulaRepair.Proofs.CommandLine.Outside

/-! # What the fix command writes

Each step of a command either ends it or leaves a shell to the next step. With a service that can be set
up, a document that can be read and a place that can be written to, no step ends the fix command, and
what it writes is decided on its desk: the provider is asked about the formulas that do not typeset,
each reply becomes a fix, and the acceptance chooses the fixes that are made.
-/

namespace FormulaRepair.CommandLine

open Desk

variable {Outside : Type}

section Runs

variable {α β problem : Type}

theorem bind_of_ok {first : Run Outside α} {next : α → Run Outside β} {shell later : Shell Outside}
    {value : α} (done : first shell = (.ok value, later)) :
    (first >>= next) shell = next value later := by
  simp only [bind, ExceptT.bind, ExceptT.mk, StateT.bind, done]
  rfl

private theorem outside_eq (work : StateM Outside α) (shell : Shell Outside) :
    Run.outside work shell =
      (.ok (work shell.outside).1, { shell with outside := (work shell.outside).2 }) := rfl

theorem onDesk_eq (setUp : Outside → Desk Outside) (work : StateM (Desk Outside) α)
    (shell : Shell Outside) :
    Run.onDesk setUp work shell =
      let ended := work (setUp shell.outside)
      (.ok ended, { shell with outside := ended.2.outside }) := rfl

theorem ofExcept_ok (wrap : problem → RunProblem) (value : α) (shell : Shell Outside) :
    Run.ofExcept wrap (.ok value) shell = (.ok value, shell) := rfl

private theorem printAll_eq (lines : List Text) (shell : Shell Outside) :
    Run.printAll lines shell =
      (.ok (), { shell with printed := shell.printed ++ lines.flatMap (· ++ ['\n']) }) := rfl

private theorem print_eq (line : Text) (shell : Shell Outside) :
    Run.print line shell =
      (.ok (), { shell with printed := shell.printed ++ [line].flatMap (· ++ ['\n']) }) := rfl

theorem get_eq (shell : Shell Outside) :
    (get : Run Outside (Shell Outside)) shell = (.ok shell, shell) := rfl

private theorem pure_eq (value : α) (shell : Shell Outside) :
    (pure value : Run Outside α) shell = (.ok value, shell) := rfl

end Runs

/-- A readable document whose formulas were found. -/
theorem openDocument_of_read {surroundings : Surroundings Outside} {settings : Settings}
    {shell : Shell Outside} {path content : Text} {formulas : List Formula} {desk : Desk Outside}
    (readable : surroundings.standpoint.read shell.files path = .ok content)
    (analyzed : analyzeContent surroundings path content (deskOf settings shell.outside) =
      (.ok formulas, desk)) :
    openDocument surroundings settings path shell =
      (.ok (formulas, desk), { shell with outside := desk.outside }) := by
  unfold openDocument
  rw [bind_of_ok (get_eq ..), readable, bind_of_ok (ofExcept_ok ..), bind_of_ok (onDesk_eq ..)]
  rw [analyzed]
  dsimp only
  rw [bind_of_ok (ofExcept_ok ..)]
  rfl

/-- The desk from which the fix command writes, given the one on which the document was opened. -/
def repaired (surroundings : Surroundings Outside) (settings : Settings) (service : Service)
    (acceptance : Acceptance) (desk : Desk Outside) : Desk Outside :=
  if desk.errors.isEmpty then desk
  else
    let ended := ((repairerOf surroundings settings service).repairAll desk.errors desk).2
    { ended with registry := acceptance.apply ended.registry }

/-- With a service to ask and files that can be read and written, the fix command writes what the
accepted fixes on its desk make of the document. -/
theorem fix_of_writable {surroundings : Surroundings Outside} {settings : Settings}
    {shell : Shell Outside} {service : Service} {world : Outside}
    (constructed : Service.ofSettings surroundings.transport settings shell.outside =
      (.ok service, world))
    {path content : Text} (readable : surroundings.standpoint.read shell.files path = .ok content)
    {formulas : List Formula} {desk : Desk Outside}
    (analyzed : analyzeContent surroundings path content (deskOf settings world) =
      (.ok formulas, desk))
    (output : Option Text) (acceptance : Acceptance) :
    let made := (repaired surroundings settings service acceptance desk).applyAccepted
    let written :=
      surroundings.standpoint.write shell.files (outputPath path output) made.document.current
    written.1 = .ok () →
    ∃ later : Shell Outside,
      fix surroundings settings path output acceptance shell = (.ok 0, later) ∧
        later.files = written.2 := by
  intro made written writable
  have opened : openDocument surroundings settings path { shell with outside := world } =
      (.ok (formulas, desk), { shell with outside := desk.outside }) :=
    openDocument_of_read readable analyzed
  unfold fix
  rw [bind_of_ok (outside_eq ..), constructed, bind_of_ok (ofExcept_ok ..), bind_of_ok opened]
  dsimp only
  cases unbroken : desk.errors.isEmpty with
  | true =>
    have same : repaired surroundings settings service acceptance desk = desk := by
      rw [repaired, if_pos unbroken]
    simp only [made, written, same] at writable ⊢
    simp only [↓reduceIte]
    rw [bind_of_ok (print_eq ..), bind_of_ok (pure_eq ..)]
    rw [bind_of_ok (get_eq ..)]
    dsimp only
    rw [writable]
    exact ⟨_, rfl, rfl⟩
  | false =>
    have same : repaired surroundings settings service acceptance desk =
        let ended := ((repairerOf surroundings settings service).repairAll desk.errors desk).2
        { ended with registry := acceptance.apply ended.registry } := by
      rw [repaired, unbroken]
      rfl
    simp only [made, written, same] at writable ⊢
    simp only [Bool.false_eq_true, ↓reduceIte]
    rw [bind_of_ok (onDesk_eq ..), bind_of_ok (printAll_eq ..), bind_of_ok (pure_eq ..)]
    rw [bind_of_ok (get_eq ..)]
    dsimp only
    rw [writable]
    exact ⟨_, rfl, rfl⟩

section Decisions

variable {problem : Type} {outcome : Sample → Except Refusal Text}

/-- Does a run make a fix, given whether it typesets? -/
def Acceptance.admits : Acceptance → Bool → Bool
  | .valid, typesets => typesets
  | .all, _ => true
  | .none, _ => false

theorem Acceptance.fix?_apply (acceptance : Acceptance) (registry : Registry) (id : Text) :
    (acceptance.apply registry).fix? id =
      (registry.fix? id).map fun fix =>
        if fix.status = .pending ∧ acceptance.admits fix.fixedIsValid then
          { fix with status := .accepted }
        else fix := by
  cases acceptance with
  | valid => exact registry.fix?_decide .accepted (Registry.takes true) id
  | all =>
    have chosen := registry.fix?_decide .accepted (Registry.takes false) id
    simp only [Registry.takes] at chosen
    exact chosen
  | none => simp [apply, admits]

/-- What a run puts in the place of a formula, given the answer about it: the reply between the
delimiters of the formula, if such a fix is made. -/
def Acceptance.replacement? (acceptance : Acceptance) (outcome : Sample → Except Refusal Text)
    (formula : Formula) : Except problem RepairReply → Option Replacement
  | .error _ => .none
  | .ok reply =>
      if acceptance.admits (outcome ⟨reply.latex, formula.delimiter.isDisplay⟩).isOk then
        some ⟨formula.startOffset, formula.endOffset, formula.delimiter.wrap reply.latex⟩
      else .none

private theorem Acceptance.replacement?_none (outcome : Sample → Except Refusal Text)
    (formula : Formula) (answer : Except problem RepairReply) :
    Acceptance.none.replacement? outcome formula answer = .none := by
  cases answer <;> rfl

/-- A formula about which there is an answer gives way to what the answer calls for. -/
theorem ofFormula?_of_fix (repairer : Repairer Outside problem) (acceptance : Acceptance)
    {registry : Registry} {formula : Formula} {answer : Except problem RepairReply}
    (kept : registry.fix? formula.id = repairer.fixFor? outcome formula answer) :
    Replacement.ofFormula? (acceptance.apply registry).fix? formula =
      acceptance.replacement? outcome formula answer := by
  rw [Replacement.ofFormula?, acceptance.fix?_apply, kept]
  cases answer with
  | error trouble => rfl
  | ok reply =>
    simp only [Repairer.fixFor?, Fix.propose, Option.map_some, Verdict.success_ofRendering, true_and,
      Acceptance.replacement?]
    split <;> rfl

section Answers

variable {repairer : Repairer Outside problem} {text : Text} {formulas : List Formula}
  {answers : List (Formula × Except problem RepairReply)} {registry : Registry}

/-- A formula about which there is no answer has no fix among those that come of answers. -/
theorem fix?_of_valid (found : FoundIn text formulas)
    (asked : answers.map Prod.fst = formulas.filter (!·.isValid))
    (fixes : registry.fixes =
      answers.filterMap fun asked => repairer.fixFor? outcome asked.1 asked.2)
    {formula : Formula} (member : formula ∈ formulas) (valid : formula.isValid = true) :
    registry.fix? formula.id = none := by
  refine List.find?_eq_none.mpr fun fix here named => ?_
  rw [fixes] at here
  obtain ⟨other, listed, made⟩ := List.mem_filterMap.mp here
  have broken : other.1 ∈ formulas.filter (!·.isValid) := asked ▸ List.mem_map_of_mem listed
  obtain ⟨known, invalid⟩ := List.mem_filter.mp broken
  have same : other.1.id = formula.id :=
    (Repairer.fixFor?_formulaId made).symm.trans (by simpa using named)
  rw [found.eq_of_id_eq known member same, valid] at invalid
  cases invalid

/-- The fixes that come of the answers about the invalid formulas are written into the text as the
acceptance says, and the valid formulas stay. -/
theorem compose_of_answers (found : FoundIn text formulas)
    (asked : answers.map Prod.fst = formulas.filter (!·.isValid))
    (fixes : registry.fixes =
      answers.filterMap fun asked => repairer.fixFor? outcome asked.1 asked.2)
    (acceptance : Acceptance) :
    compose text formulas (acceptance.apply registry).fix? =
      Replacement.rebuild text 0
        (answers.filterMap fun asked => acceptance.replacement? outcome asked.1 asked.2) := by
  have distinct : (answers.map fun asked => asked.1.id).Nodup := by
    have listed : (answers.map Prod.fst).Sublist formulas := asked ▸ List.filter_sublist
    have once := (listed.map Formula.id).nodup found.nodup_map_id
    rwa [List.map_map] at once
  rw [compose_eq_rebuild found]
  congr 1
  calc formulas.filterMap (Replacement.ofFormula? (acceptance.apply registry).fix?)
      = (formulas.filter (!·.isValid)).filterMap
          (Replacement.ofFormula? (acceptance.apply registry).fix?) := by
        rw [List.filterMap_filter]
        refine List.filterMap_congr fun formula member => ?_
        cases valid : formula.isValid with
        | false => rfl
        | true =>
          rw [Replacement.ofFormula?, acceptance.fix?_apply,
            fix?_of_valid found asked fixes member valid]
          rfl
    _ = (answers.map Prod.fst).filterMap
          (Replacement.ofFormula? (acceptance.apply registry).fix?) := by rw [asked]
    _ = answers.filterMap fun asked => acceptance.replacement? outcome asked.1 asked.2 := by
        rw [List.filterMap_map]
        refine List.filterMap_congr fun asked member => ofFormula?_of_fix repairer acceptance ?_
        rw [Registry.fix?, fixes]
        exact repairer.find?_fixes outcome distinct member

end Answers

end Decisions

/-- From a desk with judged formulas and no fixes, the replies that the acceptance admits are written
into the text. -/
theorem current_repaired {surroundings : Surroundings Outside} {settings : Settings}
    {service : Service} {outcome : Sample → Except Refusal Text}
    (plain : (repairerOf surroundings settings service).Plain outcome) {desk : Desk Outside}
    (found : FoundIn desk.document.loaded desk.document.formulas)
    (working : desk.AtWork outcome desk.document.formulas) (unfixed : desk.registry.fixes = [])
    (acceptance : Acceptance) :
    let answers := (repairerOf surroundings settings service).answers desk.errors desk
    answers.map Prod.fst = desk.errors ∧
      (repaired surroundings settings service acceptance desk).applyAccepted.document.current =
        Replacement.rebuild desk.document.loaded 0
          (answers.filterMap fun asked => acceptance.replacement? outcome asked.1 asked.2) := by
  dsimp only
  have once : (desk.errors.map Formula.id).Nodup :=
    (List.filter_sublist.map Formula.id).nodup found.nodup_map_id
  have listed : ∀ formula ∈ desk.errors, formula ∈ desk.document.formulas :=
    fun formula member => (List.mem_filter.mp member).1
  obtain ⟨asked, document, -, fixes⟩ :=
    plain.repairAll found.nodup_map_id listed once working (by simp [unfixed])
  rw [unfixed, List.nil_append] at fixes
  refine ⟨asked, ?_⟩
  cases unbroken : desk.errors.isEmpty with
  -- Nobody is asked then, and without fixes no acceptance makes a difference.
  | true =>
    have silent : (repairerOf surroundings settings service).answers desk.errors desk = [] :=
      List.map_eq_nil_iff.mp (asked.trans (List.isEmpty_iff.mp unbroken))
    have kept : desk.registry.fixes =
        ((repairerOf surroundings settings service).answers desk.errors desk).filterMap
          fun asked =>
            (repairerOf surroundings settings service).fixFor? outcome asked.1 asked.2 := by
      rw [silent, unfixed]
      rfl
    have written := compose_of_answers found asked kept .none
    rw [repaired, if_pos unbroken]
    rw [silent] at written ⊢
    exact written
  | false =>
    have written := compose_of_answers found asked fixes acceptance
    rw [repaired, unbroken, ← written]
    simp only [applyAccepted, Bool.false_eq_true, ↓reduceIte, document]

/-- A command finds the formulas of a document and judges each of them by its outcome. -/
theorem analyzeContent_of_plain {surroundings : Surroundings Outside}
    {outcome : Sample → Except Refusal Text} (plain : (rendererOf surroundings).Plain outcome)
    (settings : Settings) (world : Outside) (path content : Text) :
    let formulas := (Scan.formulas content).map (Formula.judgedBy outcome)
    let opened := analyzeContent surroundings path content (deskOf settings world)
    opened.1 = .ok formulas ∧ opened.2.document.loaded = content ∧
      opened.2.document.formulas = formulas ∧ opened.2.registry.fixes = [] ∧
      opened.2.AtWork outcome formulas := by
  intro formulas opened
  have empty : ((deskOf settings world).load (some path) content).cache.Truthful outcome := by
    intro entry member
    cases member
  obtain ⟨answered, document, unfixed, working⟩ := analyze_of_plain plain empty rfl rfl
  exact ⟨answered, congrArg Document.loaded document, congrArg Document.formulas document, unfixed,
    working⟩

/-- The invalid ones among judged formulas are those that were found and do not typeset. -/
private theorem map_asFound_invalid (outcome : Sample → Except Refusal Text) (text : Text) :
    (((Scan.formulas text).map (Formula.judgedBy outcome)).filter (!·.isValid)).map
        Formula.asFound =
      (Scan.formulas text).filter fun formula => !(outcome formula.sample).isOk := by
  have invalid : (fun formula : Formula => !formula.isValid) ∘ Formula.judgedBy outcome =
      fun formula => !(outcome formula.sample).isOk := by
    funext formula
    exact congrArg (!·) (Verdict.success_ofRendering _)
  rw [List.filter_map, invalid, List.map_map]
  conv_rhs => rw [← Scan.map_asFound_formulas text, List.filter_map]
  rfl

/-- The fix command writes the input back with replies in place of formulas that do not typeset. For a
typesetter whose outcome depends on the sample alone, a service that can be set up and files
that can be read and written, it asks about exactly those formulas, once each and in order, and ends
in success. The span of such a formula gives way to the reply between its own delimiters when there is
a reply that the acceptance admits; everything else is copied. -/
theorem fix_writes_replies {surroundings : Surroundings Outside}
    {outcome : Sample → Except Fault Text}
    (settled : ∀ sample world, (surroundings.typesetter sample world).1 = outcome sample)
    {settings : Settings} {shell : Shell Outside} {service : Service}
    (constructed :
      (Service.ofSettings surroundings.transport settings shell.outside).1 = .ok service)
    {path content : Text} (readable : surroundings.standpoint.read shell.files path = .ok content)
    {output : Option Text}
    (writable : ∀ text,
      (surroundings.standpoint.write shell.files (outputPath path output) text).1 = .ok ())
    (acceptance : Acceptance) :
    let rendering := Typesetter.checkedOutcome outcome
    let world := (Service.ofSettings surroundings.transport settings shell.outside).2
    let desk := (analyzeContent surroundings path content (deskOf settings world)).2
    let answers := (repairerOf surroundings settings service).answers desk.errors desk
    let text := Replacement.rebuild content 0
      (answers.filterMap fun asked => acceptance.replacement? rendering asked.1 asked.2)
    let ended := fix surroundings settings path output acceptance shell
    ended.1 = .ok 0 ∧
    ended.2.files =
      (surroundings.standpoint.write shell.files (outputPath path output) text).2 ∧
    answers.map (fun asked => asked.1.asFound) =
      (Scan.formulas content).filter (fun formula => !(rendering formula.sample).isOk) ∧
    (acceptance = .none → text = content) ∧
    ((∀ formula ∈ Scan.formulas content, (rendering formula.sample).isOk = true) →
      text = content) := by
  intro rendering world desk answers text ended
  have plain : (repairerOf surroundings settings service).Plain rendering :=
    plain_repairerOf settled settings service
  obtain ⟨answered, loaded, formulas, unfixed, working⟩ :=
    analyzeContent_of_plain plain.renderer settings world path content
  have judged := Scan.map_asFound_formulas content
  have found : FoundIn desk.document.loaded desk.document.formulas := by
    rw [loaded, formulas, FoundIn, List.map_map]
    exact judged
  rw [← formulas] at working
  obtain ⟨asked, written⟩ := current_repaired plain found working unfixed acceptance
  rw [loaded] at written
  obtain ⟨later, run, files⟩ := fix_of_writable (Prod.ext constructed rfl) readable
    (Prod.ext answered rfl) output acceptance (writable _)
  have broken : answers.map (fun asked => asked.1.asFound) =
      (Scan.formulas content).filter fun formula => !(rendering formula.sample).isOk := by
    rw [← map_asFound_invalid, ← formulas]
    exact (List.map_map ..).symm.trans (congrArg (List.map Formula.asFound) asked)
  have verbatim : answers.filterMap (fun asked =>
      acceptance.replacement? rendering asked.1 asked.2) = [] → text = content := by
    intro empty
    simp only [text, empty]
    exact Replacement.rebuild_nil content
  refine ⟨congrArg Prod.fst run, ?_, broken, fun mode => verbatim ?_, fun typesets => verbatim ?_⟩
  · rw [written] at files
    exact (congrArg (fun ended => ended.2.files) run).trans files
  · refine List.filterMap_eq_nil_iff.mpr fun asked _ => ?_
    rw [mode]
    exact Acceptance.replacement?_none ..
  · have spared : (Scan.formulas content).filter
        (fun formula => !(rendering formula.sample).isOk) = [] :=
      List.filter_eq_nil_iff.mpr fun formula member => by simp [typesets formula member]
    rw [List.map_eq_nil_iff.mp (broken.trans spared)]
    rfl

/-- A typesetter that refuses to raise nothing, and a local service that is given its replies beforehand
and fails where one is missing. -/
def rehearsed : Surroundings (List (Option Text)) where
  environment _ := .none
  standpoint := ⟨[], []⟩
  typesetter sample :=
    pure (if sample.latex.getLast? = some '^' then .error default else .ok sample.latex)
  transport :=
    { connect := fun _ => pure ()
      chat := fun _ => pure (.error default)
      listModels := fun _ => pure (.error default)
      post := fun _ replies =>
        match replies with
        | some reply :: later =>
            (.ok { status := 200
                   body := .ok (.record [("message".toList,
                     .record [("content".toList, .text reply)])]) }, later)
        | _ => (.error default, replies.tail)
      fetch := fun _ _ => pure (.error default)
      pause := fun _ => pure ()
      wording := .plain }

/-- Settings that ask a local service once for each repair. -/
def hasty : Settings :=
  { service := .ollama, openAIBaseUrl := [], openAIKey := .none, openAIModel := [],
    lmStudioBaseUrl := [], lmStudioModel := [], ollamaBaseUrl := [], ollamaModel := [],
    timeout := .whole 1, maxRetries := 0, cacheCapacity := 8, contextSize := 4, workers := 2,
    logLevel := [] }

/-- A shell with one document and three replies, the second of which is a failure. -/
def desktop : Shell (List (Option Text)) :=
  { files := ⟨[(["a.md".toList], .file (Utf8.encode "$x^$ $a$ $y^$ $$z^$$".toList))]⟩
    outside := [some "x^2".toList, .none, some "$w^$".toList] }

theorem fix_writes_replies_rehearsed :
    let run (acceptance : Acceptance) := fix rehearsed hasty "a.md".toList .none acceptance desktop
    let write (text : Text) := rehearsed.standpoint.write desktop.files "a_fixed.md".toList text
    (run .valid).1 = .ok 0 ∧
      (run .valid).2.files = (write "$x^2$ $a$ $y^$ $$z^$$".toList).2 ∧
      (run .all).2.files = (write "$x^2$ $a$ $y^$ $$w^$$".toList).2 ∧
      (run .none).2.files = (write "$x^$ $a$ $y^$ $$z^$$".toList).2 := by
  intro run write
  have settled (sample : Sample) (world : List (Option Text)) :
      (rehearsed.typesetter sample world).1 =
        if sample.latex.getLast? = some '^' then .error default else .ok sample.latex := rfl
  have constructed : (Service.ofSettings rehearsed.transport hasty desktop.outside).1 =
      .ok (.hosted (.ofAddress [] [] (.whole 1) (.ofInt 0))) := rfl
  have readable : rehearsed.standpoint.read desktop.files "a.md".toList =
      .ok "$x^$ $a$ $y^$ $$z^$$".toList := by decide +kernel
  have writable (text : Text) : (rehearsed.standpoint.write desktop.files
      (outputPath "a.md".toList .none) text).1 = .ok () := rfl
  have replies := fix_writes_replies settled constructed readable writable
  obtain ⟨ended, valid, -⟩ := replies .valid
  obtain ⟨-, all, -⟩ := replies .all
  obtain ⟨-, unchanged, -, verbatim, -⟩ := replies .none
  refine ⟨ended, valid.trans (congrArg (fun text => (write text).2) ?_),
    all.trans (congrArg (fun text => (write text).2) ?_),
    unchanged.trans (congrArg (fun text => (write text).2) (verbatim rfl))⟩
  · decide +kernel
  · decide +kernel

end FormulaRepair.CommandLine

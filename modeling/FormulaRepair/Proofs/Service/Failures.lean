import FormulaRepair.Proofs.Blanks
import FormulaRepair.Proofs.Service.Attempts
import FormulaRepair.Service

/-! # How services fail

A service that has no replacement for a formula says so: when the attempts to ask it are used up or
given up, when its answer lacks a part, and when there is no formula left in the text of the model.
Its answers have no promised shape, though, and some of them make it fail in a way of their own:
those where the choices have no places, where something else than a text is in the place of the
formula, or where something else than a text names the model.
-/

namespace FormulaRepair

/-- The failure tells that there is no replacement. -/
def ServiceProblem.IsRepair (problem : ServiceProblem) : Prop :=
  ∃ message, problem = .repair message

/-- It ends in a failure that is not told as the lack of a replacement. -/
def Escapes {α : Type} (result : Except ServiceProblem α) : Prop :=
  ∃ problem, result = .error problem ∧ ¬ problem.IsRepair

section Escapes

variable {α β : Type}

@[simp] theorem not_escapes_ok (value : α) : ¬ Escapes (.ok value) := by
  rintro ⟨problem, fails, -⟩
  cases fails

@[simp] theorem escapes_error (problem : ServiceProblem) :
    Escapes (.error problem : Except ServiceProblem α) ↔ ¬ problem.IsRepair := by
  simp [Escapes]

theorem bind_eq_ok_iff {first : Except ServiceProblem α} {next : α → Except ServiceProblem β}
    {result : β} :
    first >>= next = .ok result ↔ ∃ value, first = .ok value ∧ next value = .ok result := by
  cases first with
  | error problem =>
    change Except.error problem = _ ↔ _
    simp
  | ok value =>
    change next value = _ ↔ _
    simp

/-- Of two steps, the second one is only taken when the first one has a value. -/
theorem escapes_bind {first : Except ServiceProblem α} {next : α → Except ServiceProblem β} :
    Escapes (first >>= next) ↔
      Escapes first ∨ ∃ value, first = .ok value ∧ Escapes (next value) := by
  cases first with
  | error problem =>
    change Escapes (.error problem) ↔ _
    simp
  | ok value =>
    change Escapes (next value) ↔ _
    simp

end Escapes

@[simp] theorem ServiceProblem.isRepair_malformed (service : Text) :
    (ServiceProblem.malformed service).IsRepair := ⟨_, rfl⟩

@[simp] theorem ServiceProblem.isRepair_emptyFormula (service : Text) :
    (ServiceProblem.emptyFormula service).IsRepair := ⟨_, rfl⟩

section Attempts

variable {state α : Type}

/-- A whole number can be compared with the number of every attempt. -/
theorem Retry.runFrom_whole (count : Int) (what : Text) (pause : Float → StateM state Unit)
    (call : StateM state (Except CallProblem α)) (attempt : Nat) (last : CallProblem)
    (remaining : Nat) (whole : state) (kind : Text) :
    (runFrom (.whole count) what pause call attempt last remaining whole).1 ≠
      .error (.incomparable kind) := by
  induction remaining generalizing attempt last whole with
  | zero => exact fun same => by cases same
  | succ remaining ih =>
    rcases outcome : call whole with ⟨problem | value, after⟩
    · by_cases givenUp : ∃ message, problem = .repair message
      · obtain ⟨message, rfl⟩ := givenUp
        rw [runFrom_givenUp outcome]
        exact fun same => by cases same
      · rw [runFrom_failed (not_exists.mp givenUp) outcome]
        split
        · exact fun same => by cases same
        · exact ih _ _ _
    · rw [runFrom_value outcome]
      exact fun same => by cases same

/-- Attempts that end without a value are told as the lack of a replacement. -/
theorem ServiceProblem.isRepair_ofRetry {problem : Retry.Problem}
    (counted : ∀ kind, problem ≠ .incomparable kind) :
    (ServiceProblem.ofRetry problem).IsRepair := by
  cases problem with
  | incomparable kind => exact absurd rfl (counted kind)
  | repair message | exhausted what last => exact ⟨_, rfl⟩

end Attempts

/-- Parts of the value can be looked up by their place. -/
def Data.HasPlaces : Data → Prop
  | list _ | text _ => True
  | _ => False

/-- A value that counts as filled and is no text. -/
def Service.Outlook.Misfit (outlook : Service.Outlook) (value : Data) : Prop :=
  outlook.isFilled value = true ∧ value.text? = none

/-- What is in the place of the formula in the answer of a chat service: the content of the message
of the first choice. -/
def ChatService.contentIn? (response : Data) : Option Data :=
  match response.field? "choices".toList with
  | some (.list (choice :: _)) =>
      (choice.field? "message".toList).bind (Data.field? "content".toList)
  | _ => none

/-- What is in the place of the formula in the answer of a local service: the content of the
message. -/
def LocalService.contentIn? (response : Data) : Option Data :=
  (response.field? "message".toList).bind (Data.field? "content".toList)

namespace ChatService

variable {wording : Wording}

private theorem escapes_field (service : Text) (name : String) (value : Data) :
    ¬ Escapes (field service name value) := by
  unfold field
  split <;> simp

theorem field_eq_ok_iff {service : Text} {name : String} {value found : Data} :
    field service name value = .ok found ↔ value.field? name.toList = some found := by
  unfold field
  split <;> simp [*]

/-- Only a value without places makes the search for the first choice escape. -/
theorem escapes_firstChoice_iff {service : Text} {choices : Data} :
    Escapes (firstChoice wording service choices) ↔ ¬ choices.HasPlaces := by
  have placeless (kind : Text) : ¬ (ServiceProblem.noPlaces kind).IsRepair := by
    rintro ⟨message, same⟩
    cases same
  cases choices with
  | list items => cases items <;> simp [firstChoice, Data.HasPlaces]
  | text value => cases value <;> simp [firstChoice, Data.HasPlaces]
  | null | bool | int | float | record => simp [firstChoice, Data.HasPlaces, placeless]

/-- Only choices without places make the search for the content escape. -/
theorem escapes_answerIn_iff {service : Text} {response : Data} :
    Escapes (answerIn wording service response) ↔
      ∃ choices, response.field? "choices".toList = some choices ∧ ¬ choices.HasPlaces := by
  simp only [answerIn, escapes_bind, escapes_field, escapes_firstChoice_iff, field_eq_ok_iff,
    and_false, exists_const, or_false, false_or]

/-- A choice with fields is the first of listed ones. -/
theorem exists_of_firstChoice {service name : Text} {choices choice value : Data}
    (first : firstChoice wording service choices = .ok choice)
    (filled : choice.field? name = some value) :
    ∃ rest, choices = .list (choice :: rest) := by
  unfold firstChoice at first
  split at first
  · cases first
  · cases first
  · cases first
    exact ⟨_, rfl⟩
  -- A choice of one character has no fields.
  · cases first
    cases filled
  · cases first

/-- The content of the answer, where it has one. -/
theorem answerIn_eq_ok_iff {service : Text} {response answer : Data} :
    answerIn wording service response = .ok answer ↔ contentIn? response = some answer := by
  simp only [answerIn, bind_eq_ok_iff, field_eq_ok_iff]
  constructor
  · rintro ⟨choices, listed, choice, first, message, named, content⟩
    obtain ⟨rest, rfl⟩ := exists_of_firstChoice first named
    simp only [contentIn?, listed, named, Option.bind_some, content]
  · intro found
    unfold contentIn? at found
    split at found
    · next choice rest listed =>
      obtain ⟨message, named, content⟩ := Option.bind_eq_some_iff.mp found
      exact ⟨_, listed, choice, rfl, message, named, content⟩
    · cases found

end ChatService

namespace Service

/-- The value that counts as the content of an answer, or in which nothing is in its place. -/
def contentIn? : Service → Data → Option Data
  | chat _, response => ChatService.contentIn? response
  | .hosted _, response => LocalService.contentIn? response

/-- The reply in an answer. -/
def replyIn (wording : Wording) : Service → Data → Except ServiceProblem RepairReply
  | chat service, response => service.replyIn wording response
  | .hosted service, response => service.replyIn wording response

/-- The attempts to ask a service about a formula. -/
def attempts {state : Type} (transport : Transport state) (request : RepairRequest) :
    Service → StateM state (Except Retry.Problem Data)
  | chat service =>
      Retry.run service.limit (callName service.name) transport.pause
        (transport.chat (service.question request))
  | .hosted service =>
      Retry.run service.limit (callName LocalService.name) transport.pause do
        return (← transport.post (service.question request)).bind HttpAnswer.content

/-- A repair is what the attempts to ask come to: the reply in their answer, or their failure. -/
theorem repair_eq {state : Type} (transport : Transport state) (service : Service)
    (request : RepairRequest) (whole : state) :
    service.repair transport request whole =
      let asked := service.attempts transport request whole
      (match asked.1 with
        | .error problem => .error (.ofRetry problem)
        | .ok response => service.replyIn transport.wording response, asked.2) := by
  cases service <;> rfl

/-- Does a service count a value as filled? -/
def isFilled : Service → Data → Bool
  | chat _ => ChatService.isFilled
  | .hosted _ => Data.isFilled

/-- A value that a service counts as filled and that is no text. -/
def Misfit (service : Service) (value : Data) : Prop :=
  service.isFilled value = true ∧ value.text? = none

/-- The shapes of an answer that a service does not look after. -/
inductive Unforeseen : Service → Data → Prop
  /-- There are choices, but no first one can be looked up in them. -/
  | choices {service : ChatService} {response choices : Data} :
      response.field? "choices".toList = some choices → ¬ choices.HasPlaces →
      Unforeseen (chat service) response
  /-- The content is something else than a text. -/
  | content {service : Service} {response content : Data} :
      service.contentIn? response = some content → service.Misfit content →
      Unforeseen service response
  /-- There is a formula, but the model is named by something else than a text. -/
  | model {service : Service} {response model : Data} {output : Text} :
      service.contentIn? response = some (.text output) → Cleaning.clean output ≠ [] →
      response.field? "model".toList = some model → service.Misfit model →
      Unforeseen service response

variable {wording : Wording}

private theorem misfit_outlook_iff {service : Service} {value : Data} :
    (service.outlook wording).Misfit value ↔ service.Misfit value := by
  cases service <;> rfl

private theorem isFilled_text (service : Service) (value : Text) :
    (service.outlook wording).isFilled (.text value) = !value.isEmpty := by
  cases service <;> rfl

private theorem clean_nil : Cleaning.clean [] = [] := by
  rw [Cleaning.clean, Cleaning.withoutThinking]
  rfl

/-- The text of the model, when there is one; a value that counts as empty stands for no text. -/
def outputOf (outlook : Outlook) (answer : Data) : Except ServiceProblem Text :=
  if outlook.isFilled answer then
    match answer with
    | .text output => .ok output
    | other => .error (.answerNotText (outlook.kindName other))
  else .ok []

/-- The formula in the text of the model. -/
def formulaIn (name output : Text) : Except ServiceProblem Text :=
  if (Cleaning.clean output).isEmpty then .error (.emptyFormula name)
  else .ok (Cleaning.clean output)

theorem formulaOf_eq (name : Text) (outlook : Outlook) (answer : Data) :
    formulaOf name outlook answer = outputOf outlook answer >>= formulaIn name := rfl

private theorem not_escapes_formulaIn (name output : Text) : ¬ Escapes (formulaIn name output) := by
  unfold formulaIn
  split <;> simp

private theorem formulaIn_eq_ok_iff {name output formula : Text} :
    formulaIn name output = .ok formula ↔ formula ≠ [] ∧ Cleaning.clean output = formula := by
  unfold formulaIn
  cases Cleaning.clean output with
  | nil => simp [eq_comm]
  | cons first rest => simp +contextual [eq_comm]

private theorem escapes_outputOf_iff {outlook : Outlook} {answer : Data} :
    Escapes (outputOf outlook answer) ↔ outlook.Misfit answer := by
  have foreign (kind : Text) : ¬ (ServiceProblem.answerNotText kind).IsRepair := by
    rintro ⟨message, same⟩
    cases same
  unfold outputOf Outlook.Misfit
  cases outlook.isFilled answer with
  | false => simp
  | true => cases answer <;> simp [Data.text?, foreign]

/-- Only a misfit in the place of the formula makes the search for it escape. -/
theorem escapes_formulaOf_iff {name : Text} {outlook : Outlook} {answer : Data} :
    Escapes (formulaOf name outlook answer) ↔ outlook.Misfit answer := by
  rw [formulaOf_eq, escapes_bind, escapes_outputOf_iff]
  simp only [not_escapes_formulaIn, and_false, exists_const, or_false]

/-- The formula in an answer is the cleaned text of the model. -/
theorem formulaOf_eq_ok_iff {name formula : Text} {service : Service} {answer : Data} :
    formulaOf name (service.outlook wording) answer = .ok formula ↔
      formula ≠ [] ∧ ∃ output, answer = .text output ∧ Cleaning.clean output = formula := by
  rw [formulaOf_eq, bind_eq_ok_iff]
  simp only [formulaIn_eq_ok_iff]
  constructor
  · rintro ⟨output, found, nonempty, clean⟩
    refine ⟨nonempty, output, ?_, clean⟩
    unfold outputOf at found
    split at found
    · split at found
      · cases found
        rfl
      · cases found
    -- What counts as empty stands for the empty text, and there is no formula in it.
    · cases found
      exact absurd (clean.symm.trans clean_nil) nonempty
  · rintro ⟨nonempty, output, rfl, clean⟩
    refine ⟨output, ?_, nonempty, clean⟩
    cases output with
    | nil => exact absurd (clean.symm.trans clean_nil) nonempty
    | cons first output => simp [outputOf, isFilled_text]

/-- Only a misfit that names the model makes the search for the name escape. -/
theorem escapes_modelOf_iff {outlook : Outlook} {asked : Text} {named : Option Data} :
    Escapes (modelOf outlook asked named) ↔ ∃ model, named = some model ∧ outlook.Misfit model := by
  have foreign (message : Text) : ¬ (ServiceProblem.modelNotText message).IsRepair := by
    rintro ⟨message, same⟩
    cases same
  unfold modelOf Outlook.Misfit
  cases named with
  | none => simp
  | some model =>
    cases filled : outlook.isFilled model with
    | false => simp [filled]
    | true => cases model <;> simp [Data.text?, foreign, filled]

/-- The reply in an answer has a clean formula. -/
theorem clean_of_replyOf (service : Service) {name asked : Text} {answer : Data}
    {named : Option Data} {reply : RepairReply}
    (made : replyOf name (service.outlook wording) asked answer named = .ok reply) :
    reply.latex ≠ [] ∧ reply.latex.strip = reply.latex := by
  simp only [replyOf, bind_eq_ok_iff, formulaOf_eq_ok_iff] at made
  obtain ⟨latex, ⟨nonempty, output, rfl, clean⟩, model, -, same⟩ := made
  cases same
  refine ⟨nonempty, ?_⟩
  rw [← clean, Cleaning.clean, Text.strip_strip]

/-- A reply escapes for a misfit in the place of the formula, or for one that names the model where
there is a formula. -/
theorem escapes_replyOf_iff {name asked : Text} {service : Service} {answer : Data}
    {named : Option Data} :
    Escapes (replyOf name (service.outlook wording) asked answer named) ↔
      service.Misfit answer ∨
      ∃ output, answer = .text output ∧ Cleaning.clean output ≠ [] ∧
        ∃ model, named = some model ∧ service.Misfit model := by
  have made (latex : Text) (model : Text) :
      ¬ Escapes (pure ⟨latex, model⟩ : Except ServiceProblem RepairReply) := not_escapes_ok _
  simp only [replyOf, escapes_bind, escapes_formulaOf_iff, escapes_modelOf_iff,
    misfit_outlook_iff, formulaOf_eq_ok_iff, made, and_false, exists_const, or_false]
  refine or_congr_right ⟨?_, ?_⟩
  · rintro ⟨latex, ⟨nonempty, output, rfl, rfl⟩, misnamed⟩
    exact ⟨output, rfl, nonempty, misnamed⟩
  · rintro ⟨output, rfl, nonempty, misnamed⟩
    exact ⟨_, ⟨nonempty, output, rfl, rfl⟩, misnamed⟩

/-- What is in the place of the formula makes the reply escape when it is a misfit, or when it has a
formula and a misfit names the model. -/
private theorem unforeseen_of_content {service : Service} {response answer : Data}
    {name asked : Text} (content : service.contentIn? response = some answer)
    (escapes : Escapes (replyOf name (service.outlook wording) asked answer
      (response.field? "model".toList))) :
    service.Unforeseen response := by
  obtain misfit | ⟨output, rfl, nonempty, model, named, misfit⟩ := escapes_replyOf_iff.mp escapes
  · exact .content content misfit
  · exact .model content nonempty named misfit

/-- The reply of a chat service escapes for the shapes that it does not look after. -/
theorem escapes_chat_replyIn_iff {service : ChatService} {response : Data} :
    Escapes (service.replyIn wording response) ↔ (Service.chat service).Unforeseen response := by
  have parts : Escapes (service.replyIn wording response) ↔
      (∃ choices, response.field? "choices".toList = some choices ∧ ¬ choices.HasPlaces) ∨
      ∃ answer, (Service.chat service).contentIn? response = some answer ∧
        Escapes (replyOf service.name ((Service.chat service).outlook wording) service.model answer
          (response.field? "model".toList)) := by
    rw [ChatService.replyIn, escapes_bind, ChatService.escapes_answerIn_iff]
    simp only [ChatService.answerIn_eq_ok_iff]
    rfl
  rw [parts]
  constructor
  · rintro (⟨choices, listed, placeless⟩ | ⟨answer, content, escapes⟩)
    · exact .choices listed placeless
    · exact unforeseen_of_content content escapes
  · intro unforeseen
    cases unforeseen with
    | choices listed placeless => exact .inl ⟨_, listed, placeless⟩
    | content content misfit => exact .inr ⟨_, content, escapes_replyOf_iff.mpr (.inl misfit)⟩
    | model content nonempty named misfit =>
      exact .inr ⟨_, content,
        escapes_replyOf_iff.mpr (.inr ⟨_, rfl, nonempty, _, named, misfit⟩)⟩

/-- The reply of a local service escapes for the shapes that it does not look after. -/
theorem escapes_hosted_replyIn_iff {service : LocalService} {response : Data} :
    Escapes (service.replyIn wording response) ↔ (Service.hosted service).Unforeseen response := by
  have parts : Escapes (service.replyIn wording response) ↔
      ∃ answer, (Service.hosted service).contentIn? response = some answer ∧
        Escapes (replyOf LocalService.name ((Service.hosted service).outlook wording)
          service.model answer (response.field? "model".toList)) := by
    rw [LocalService.replyIn, contentIn?, LocalService.contentIn?]
    cases (response.field? "message".toList).bind (Data.field? "content".toList) with
    | none => simp
    | some answer => simp [outlook]
  rw [parts]
  constructor
  · rintro ⟨answer, content, escapes⟩
    exact unforeseen_of_content content escapes
  · intro unforeseen
    cases unforeseen with
    | content content misfit => exact ⟨_, content, escapes_replyOf_iff.mpr (.inl misfit)⟩
    | model content nonempty named misfit =>
      exact ⟨_, content, escapes_replyOf_iff.mpr (.inr ⟨_, rfl, nonempty, _, named, misfit⟩)⟩

/-- The reply in an answer escapes for the shapes that the service does not look after. -/
theorem escapes_replyIn_iff {service : Service} {response : Data} :
    Escapes (service.replyIn wording response) ↔ service.Unforeseen response := by
  cases service with
  | chat service => exact escapes_chat_replyIn_iff
  | hosted service => exact escapes_hosted_replyIn_iff

/-- The reply in an answer has a clean formula. -/
theorem clean_of_replyIn {service : Service} {response : Data} {reply : RepairReply}
    (made : service.replyIn wording response = .ok reply) :
    reply.latex ≠ [] ∧ reply.latex.strip = reply.latex := by
  cases service with
  | chat service =>
    obtain ⟨answer, -, made⟩ := bind_eq_ok_iff.mp made
    exact clean_of_replyOf (.chat service) made
  | hosted service =>
    rw [replyIn, LocalService.replyIn] at made
    split at made
    · cases made
    · exact clean_of_replyOf (.hosted service) made

/-- A service that counts its attempts with a whole number never ends in a failed comparison. -/
theorem attempts_ne_incomparable {state : Type} (transport : Transport state) (service : Service)
    (retries : Int) (request : RepairRequest) (whole : state) (kind : Text) :
    ((service.withLimit (.ofInt retries)).attempts transport request whole).1 ≠
      .error (.incomparable kind) := by
  cases service <;> exact Retry.runFrom_whole _ _ _ _ _ _ _ _ _

/-- Whatever the transport does, a repair ends in a reply with a clean formula or in a failure, and
the failure tells the lack of a replacement unless an answer has come in a shape that the service
does not look after. -/
theorem repair_clean_or_refused {state : Type} (transport : Transport state) (service : Service)
    (retries : Int) (request : RepairRequest) (whole : state) :
    let asked := service.withLimit (.ofInt retries)
    let answered := (asked.attempts transport request whole).1
    let ended := (asked.repair transport request whole).1
    (∀ reply, ended = .ok reply → reply.latex ≠ [] ∧ reply.latex.strip = reply.latex) ∧
    (Escapes ended ↔ ∃ response, answered = .ok response ∧ asked.Unforeseen response) := by
  have counted := attempts_ne_incomparable transport service retries request whole
  simp only [repair_eq]
  generalize ((service.withLimit (.ofInt retries)).attempts transport request whole).1 = answered
    at counted ⊢
  cases answered with
  | error problem =>
    have refused := ServiceProblem.isRepair_ofRetry fun kind same => counted kind (congrArg _ same)
    simp [refused]
  | ok response =>
    refine ⟨fun reply made => clean_of_replyIn made, ?_⟩
    simp only [Except.ok.injEq, exists_eq_left']
    exact escapes_replyIn_iff

/-- A transport with the same answer to every question, at once and complete. -/
def answering (answer : Data) : Transport Unit where
  connect _ := pure ()
  chat _ := pure (.ok answer)
  listModels _ := pure (.ok answer)
  post _ := pure (.ok { status := HttpAnswer.okStatus, body := .ok answer })
  fetch _ _ := pure (.ok { status := HttpAnswer.okStatus, body := .ok answer })
  pause _ := pure ()
  wording := .plain

/-- An answer whose choices are empty in this way gives neither a clean formula nor the failure that
tells the lack of one. -/
theorem chat_escapes_nullChoices :
    ¬ ∀ (transport : Transport Unit) (service : Service) (retries : Int) (request : RepairRequest),
        let ended := ((service.withLimit (.ofInt retries)).repair transport request ()).1
        (∃ reply, ended = .ok reply ∧ reply.latex ≠ [] ∧ reply.latex.strip = reply.latex) ∨
        ∃ problem, ended = .error problem ∧ problem.IsRepair := by
  intro told
  have ended := told (answering (.record [("choices".toList, .null)]))
    (.chat ⟨"OpenAI".toList, "gpt-4o".toList, .whole 5, .ofInt 0⟩) 0
    ⟨"x".toList, "E".toList, [], "inline-dollar".toList⟩
  obtain ⟨reply, same, -⟩ | ⟨problem, same, message, rfl⟩ := ended
  · cases same
  · cases same

end Service

end FormulaRepair

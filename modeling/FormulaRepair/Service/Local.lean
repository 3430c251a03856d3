import FormulaRepair.Service.Answer

/-! # Local services

A local service is reached by its address, anew with every call, and answers with untyped data.
-/

namespace FormulaRepair

/-- A service reached by its address, which answers with untyped data. -/
structure LocalService where
  baseUrl : Text
  model : Text
  timeout : Seconds
  limit : Retry.Limit
deriving Repr, Inhabited

namespace LocalService

/-- The name of local services. -/
def name : Text := "Ollama".toList

/-- The local service at an address; slashes at its end are dropped. -/
def ofAddress (address model : Text) (timeout : Seconds) (limit : Retry.Limit) : LocalService :=
  ⟨Text.stripRightOf '/' address, model, timeout, limit⟩

/-- How a local service looks at values. -/
def outlook (wording : Wording) : Service.Outlook where
  isFilled := Data.isFilled
  kindName := Data.kindName
  recordForm := Data.inBraces
  notText value := wording.notText value.written value.kindName

/-- The reply in the answer of a local service. -/
def replyIn (wording : Wording) (service : LocalService) (response : Data) :
    Except ServiceProblem RepairReply :=
  match (response.field? "message".toList).bind (Data.field? "content".toList) with
  | none => .error (.malformed name)
  | some answer =>
      Service.replyOf name (outlook wording) service.model answer (response.field? "model".toList)

variable {state : Type}

/-- The question that is posted for a repair. -/
def question (service : LocalService) (request : RepairRequest) : PostCall :=
  { url := service.baseUrl ++ "/api/chat".toList
    model := service.model
    messages := request.messages
    stream := false
    temperature := Service.temperature
    timeout := service.timeout }

/-- Ask for a repair. -/
def repair (service : LocalService) (transport : Transport state) (request : RepairRequest) :
    StateM state (Except ServiceProblem RepairReply) := do
  let call : StateM state (Except CallProblem Data) := do
    return (← transport.post (service.question request)).bind HttpAnswer.content
  return match ← Retry.run service.limit (Service.callName name) transport.pause call with
    | .error problem => .error (.ofRetry problem)
    | .ok response => service.replyIn transport.wording response

/-- Where the models of a service are listed. -/
def modelsUrl (service : LocalService) : Text := service.baseUrl ++ "/api/tags".toList

/-- Can the service be reached? A failure other than of the network is passed on. -/
def ping (service : LocalService) (transport : Transport state) :
    StateM state (Except ServiceProblem Bool) := do
  return match ← transport.fetch service.modelsUrl service.timeout with
    | .ok answer => .ok (answer.status == HttpAnswer.okStatus)
    | .error (.network _) => .ok false
    | .error problem => .error (.call problem)

/-- The names among listed models; a model without a name is left out. -/
def namesOf : List Data → Except ServiceProblem (List Data)
  | [] => .ok []
  | .record fields :: models => do
      let names ← namesOf models
      return match (Data.record fields).field? "name".toList with
        | some name => if name.isFilled then name :: names else names
        | none => names
  | other :: _ => .error (.noLookup other.kindName)

/-- The names of the models in an answer. A value that cannot be gone through has none; one that holds
something else than records is a failure. -/
def modelsIn (answer : Data) : Except ServiceProblem (List Data) :=
  match answer with
  | .record _ =>
      match answer.field? "models".toList with
      | none => .ok []
      | some (.list models) => namesOf models
      | some (.text (_ :: _)) | some (.record (_ :: _)) =>
          .error (.noLookup (Data.text []).kindName)
      | some _ => .ok []
  | other => .error (.noLookup other.kindName)

/-- The models of the service; none when it cannot be reached or its answer cannot be read. -/
def models (service : LocalService) (transport : Transport state) :
    StateM state (Except ServiceProblem (List Data)) := do
  return match (← transport.fetch service.modelsUrl service.timeout).bind HttpAnswer.content with
    | .ok answer => modelsIn answer
    | .error (.network _) | .error (.unreadable _) => .ok []
    | .error problem => .error (.call problem)

end LocalService

end FormulaRepair

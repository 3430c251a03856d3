import FormulaRepair.Data.Order
import FormulaRepair.Service.Answer

/-! # Chat services

A chat service is reached through a connection that has been made before, and answers with records
whose fields are asked for by name. What these records are called and how they are written is up to the
connection.
-/

namespace FormulaRepair

/-- A service reached through a connection, which answers with records. -/
structure ChatService where
  name : Text
  model : Text
  timeout : Seconds
  limit : Retry.Limit
deriving Repr, Inhabited

namespace ChatService

/-- A record of a chat service counts as filled, even without fields. -/
def isFilled : Data → Bool
  | .record _ => true
  | other => other.isFilled

/-- The word for the kind of a value in an error message, given the one for records. -/
def kindName (recordKind : Text) : Data → Text
  | .record _ => recordKind
  | other => other.kindName

/-- How a chat service looks at values. -/
def outlook (wording : Wording) : Service.Outlook where
  isFilled := isFilled
  kindName := kindName wording.recordKind
  recordForm := wording.recordForm
  notText value :=
    wording.notText (value.writtenIn wording.recordForm) (kindName wording.shortRecordKind value)

/-- The first of the choices in an answer. -/
def firstChoice (wording : Wording) (service : Text) : Data → Except ServiceProblem Data
  | .list [] | .text [] => .error (.malformed service)
  | .list (first :: _) => .ok first
  | .text (first :: _) => .ok (.text [first])
  | other => .error (.noPlaces (kindName wording.recordKind other))

/-- A field that an answer must have. -/
def field (service : Text) (name : String) (value : Data) : Except ServiceProblem Data :=
  match value.field? name.toList with
  | some found => .ok found
  | none => .error (.malformed service)

/-- The text of the model in the answer of a chat service. -/
def answerIn (wording : Wording) (service : Text) (response : Data) :
    Except ServiceProblem Data := do
  let choices ← field service "choices" response
  let choice ← firstChoice wording service choices
  let message ← field service "message" choice
  field service "content" message

/-- The reply in the answer of a chat service. -/
def replyIn (wording : Wording) (service : ChatService) (response : Data) :
    Except ServiceProblem RepairReply := do
  let answer ← answerIn wording service.name response
  Service.replyOf service.name (outlook wording) service.model answer
    (response.field? "model".toList)

variable {state : Type}

/-- The question that is sent for a repair. -/
def question (service : ChatService) (request : RepairRequest) : ChatCall :=
  { model := service.model
    messages := request.messages
    temperature := Service.temperature
    maxTokens := Service.maxTokens
    timeout := service.timeout }

/-- Ask for a repair. -/
def repair (service : ChatService) (transport : Transport state) (request : RepairRequest) :
    StateM state (Except ServiceProblem RepairReply) := do
  let answer ← Retry.run service.limit (Service.callName service.name) transport.pause
    (transport.chat (service.question request))
  return match answer with
    | .error problem => .error (.ofRetry problem)
    | .ok response => service.replyIn transport.wording response

/-- Can the service be reached? -/
def ping (service : ChatService) (transport : Transport state) : StateM state Bool := do
  return (← transport.listModels service.timeout).isOk

/-- The names of the models in an answer, in order. -/
def modelsIn? : Data → Option (List Data)
  | .list models => (models.mapM (Data.field? "id".toList)).bind Data.sort?
  | .text [] => some []
  | _ => none

/-- The models of the service; none when it cannot tell. -/
def models (service : ChatService) (transport : Transport state) : StateM state (List Data) := do
  return match ← transport.listModels service.timeout with
    | .ok answer => (modelsIn? answer).getD []
    | .error _ => []

end ChatService

end FormulaRepair

import FormulaRepair.Service.Chat
import FormulaRepair.Service.Local

/-! # Services that repair formulas

Two kinds of services can be asked: chat services and local services. The settings say which one is
meant and how it is reached.
-/

namespace FormulaRepair

/-- A service of either kind. -/
inductive Service
  | chat (service : ChatService)
  | hosted (service : LocalService)
deriving Repr

/-- There is no key for the public service. -/
inductive MissingKey
  | mk
deriving DecidableEq, Repr, Inhabited

/-- The message for a missing key. -/
def MissingKey.message (_ : MissingKey) : Text :=
  "Missing OPENAI_API_KEY. Set it in the environment before running a repair.".toList

/-- Why there is no service of the kind that a value names. -/
inductive NoService
  | missingKey (problem : MissingKey)
  | unknownKind (named : Data)
deriving Repr, Inhabited

/-- The message for a service that there is not. -/
def NoService.message : NoService → Text
  | missingKey problem => problem.message
  | unknownKind named => "Unknown repair provider ".toList ++ named.written

namespace Service

variable {state : Type}

/-- The key that is sent to services which need none. -/
def placeholderKey : Text := "not-needed".toList

/-- A chat service with its connection made. -/
def connect (transport : Transport state) (name address key model : Text) (settings : Settings) :
    StateM state Service := do
  transport.connect { baseUrl := address, key := key }
  return .chat ⟨name, model, settings.timeout, .ofInt settings.maxRetries⟩

/-- The service that the settings call for. -/
def ofSettings (transport : Transport state) (settings : Settings) :
    StateM state (Except MissingKey Service) := do
  match settings.service with
  | .openAI =>
      match settings.openAIKey.filter (!·.isEmpty) with
      | none => return .error .mk
      | some key =>
          return .ok (← connect transport "OpenAI".toList settings.openAIBaseUrl key
            settings.openAIModel settings)
  | .lmStudio =>
      return .ok (← connect transport "LM Studio".toList settings.lmStudioBaseUrl placeholderKey
        settings.lmStudioModel settings)
  | .ollama =>
      return .ok (.hosted (.ofAddress settings.ollamaBaseUrl settings.ollamaModel settings.timeout
        (.ofInt settings.maxRetries)))

/-- The service of the kind that an untyped value names, as the settings have it. -/
def ofNamed (transport : Transport state) (named : Data) (settings : Settings) :
    StateM state (Except NoService Service) :=
  match ServiceKind.ofData? named with
  | none => return .error (.unknownKind named)
  | some kind => do
      return (← ofSettings transport { settings with service := kind }).mapError .missingKey

/-- The name of a kind makes the service that the settings have for it. -/
theorem ofNamed_name (transport : Transport state) (kind : ServiceKind) (settings : Settings)
    (whole : state) :
    ofNamed transport (.text kind.name) settings whole =
      let made := ofSettings transport { settings with service := kind } whole
      (made.1.mapError .missingKey, made.2) := by
  rw [ofNamed, ServiceKind.ofData?_eq_some_iff.mpr rfl]
  rfl

/-- Every other value is refused, and no connection is made for it. -/
theorem ofNamed_of_foreign (transport : Transport state) {named : Data} (settings : Settings)
    (foreign : ∀ kind : ServiceKind, named ≠ .text kind.name) (whole : state) :
    ofNamed transport named settings whole = (.error (.unknownKind named), whole) := by
  have unknown : ServiceKind.ofData? named = none :=
    Option.eq_none_iff_forall_ne_some.mpr fun kind found =>
      foreign kind (ServiceKind.ofData?_eq_some_iff.mp found)
  rw [ofNamed, unknown]
  rfl

/-- The name of a service. -/
def name : Service → Text
  | chat service => service.name
  | .hosted _ => LocalService.name

/-- How a service looks at values. -/
def outlook (wording : Wording) : Service → Outlook
  | chat _ => ChatService.outlook wording
  | .hosted _ => LocalService.outlook wording

/-- The service with another limit on its attempts. -/
def withLimit (limit : Retry.Limit) : Service → Service
  | chat service => .chat { service with limit := limit }
  | .hosted service => .hosted { service with limit := limit }

/-- Ask for a repair. -/
def repair (transport : Transport state) (service : Service) (request : RepairRequest) :
    StateM state (Except ServiceProblem RepairReply) :=
  match service with
  | chat service => service.repair transport request
  | .hosted service => service.repair transport request

/-- Can the service be reached? -/
def ping (transport : Transport state) (service : Service) :
    StateM state (Except ServiceProblem Bool) :=
  match service with
  | chat service => .ok <$> service.ping transport
  | .hosted service => service.ping transport

/-- The models of the service. -/
def models (transport : Transport state) (service : Service) :
    StateM state (Except ServiceProblem (List Data)) :=
  match service with
  | chat service => .ok <$> service.models transport
  | .hosted service => service.models transport

/-- The service as a provider of repairs. -/
def provider (transport : Transport state) (service : Service) : Provider state ServiceProblem :=
  ⟨service.name, service.repair transport⟩

end Service

end FormulaRepair

import FormulaRepair.Proofs.Order
import FormulaRepair.Proofs.Service.Failures

/-! # Listing the models of a service

Asking a service for its models, or whether it can be reached, is meant to fail with nothing worse
than no models and no. A chat service keeps to that whatever happens. A local service takes care of
the failures that it expects, those of the network and of reading an answer, but looks a name up in
whatever it finds among the models: an answer that is no record, or that holds something else than
records there, is a failure of its own. And no service asks whether the names are texts.
-/

namespace FormulaRepair

/-- The failure is one of the network. -/
def CallProblem.IsNetwork : CallProblem → Prop
  | network _ => True
  | _ => False

/-- The failure is one of the network or of reading an answer. -/
def CallProblem.IsExpected : CallProblem → Prop
  | network _ | unreadable _ => True
  | _ => False

namespace Data

/-- The value is a record. -/
def IsRecord : Data → Prop
  | record _ => True
  | _ => False

/-- What is found when a value is gone through: the items of a list, the characters of a text, the
names in a record. Other values cannot be gone through. -/
def parts : Data → List Data
  | list items => items
  | text value => value.map fun c => text [c]
  | record fields => fields.map fun field => text field.1
  | _ => []

/-- All values are texts when none of them is something else. -/
theorem exists_map_text_iff {values : List Data} :
    (∃ texts : List Text, values = texts.map text) ↔ ∀ value ∈ values, value.text? ≠ none := by
  constructor
  · rintro ⟨texts, rfl⟩ value member
    obtain ⟨written, -, rfl⟩ := List.mem_map.mp member
    exact Option.some_ne_none written
  · intro texts
    have inverse (value : Data) (written : Text) (same : value.text? = some written) :
        text written = value := by
      cases value <;> cases same
      rfl
    refine ⟨values.filterMap text?, ?_⟩
    induction values with
    | nil => rfl
    | cons value values ih =>
      obtain ⟨written, same⟩ := Option.ne_none_iff_exists'.mp (texts value List.mem_cons_self)
      rw [List.filterMap_cons_some same, List.map_cons, inverse value written same,
        ← ih fun other member => texts other (List.mem_cons_of_mem _ member)]

end Data

namespace LocalService

/-- What an answer has among its models. -/
def modelParts (answer : Data) : List Data := (answer.field? "models".toList).elim [] Data.parts

/-- The name of a model, when it counts as filled. -/
def nameIn? (model : Data) : Option Data := (model.field? "name".toList).filter Data.isFilled

/-- Among records the filled names are found, in order. -/
theorem namesOf_eq_ok {models : List Data} (records : ∀ model ∈ models, model.IsRecord) :
    namesOf models = .ok (models.filterMap nameIn?) := by
  induction models with
  | nil => rfl
  | cons model models ih =>
    have later := ih fun other member => records other (List.mem_cons_of_mem _ member)
    have here := records model List.mem_cons_self
    cases model with
    | record fields =>
      rw [namesOf, later, List.filterMap_cons, nameIn?]
      cases (Data.record fields).field? "name".toList with
      | none => rfl
      | some name =>
        rw [Option.filter_some]
        change Except.ok (if name.isFilled = true then name :: models.filterMap nameIn?
          else models.filterMap nameIn?) = _
        cases name.isFilled <;> rfl
    | null | bool | int | float | text | list => exact here.elim

/-- The names are found among records, and only among them. -/
theorem exists_namesOf_eq_error_iff {models : List Data} :
    (∃ problem, namesOf models = .error problem) ↔ ∃ model ∈ models, ¬ model.IsRecord := by
  constructor
  · rintro ⟨problem, failed⟩
    by_contra records
    push Not at records
    rw [namesOf_eq_ok records] at failed
    cases failed
  · rintro ⟨model, member, foreign⟩
    induction models with
    | nil => cases member
    | cons first models ih =>
      cases first with
      | record fields =>
        have behind : model ∈ models :=
          (List.mem_cons.mp member).resolve_left fun same => foreign (same ▸ trivial)
        obtain ⟨problem, failed⟩ := ih behind
        exact ⟨problem, by rw [namesOf, failed]; rfl⟩
      | null | bool | int | float | text | list => exact ⟨_, rfl⟩

/-- In a record the models are gone through one by one. -/
theorem modelsIn_record (fields : List (Text × Data)) :
    modelsIn (.record fields) = namesOf (modelParts (.record fields)) := by
  rw [modelsIn, modelParts]
  cases (Data.record fields).field? "models".toList with
  | none => rfl
  | some models =>
    cases models with
    | text value => cases value <;> rfl
    | record fields => cases fields <;> rfl
    | null | bool | int | float | list => rfl

private theorem modelsIn_eq_ok {answer : Data} (whole : answer.IsRecord)
    (records : ∀ model ∈ modelParts answer, model.IsRecord) :
    modelsIn answer = .ok ((modelParts answer).filterMap nameIn?) := by
  cases answer with
  | record fields => rw [modelsIn_record, namesOf_eq_ok records]
  | null | bool | int | float | text | list => exact whole.elim

/-- The models in an answer can be told exactly when it is a record with only records among its
models. -/
theorem exists_modelsIn_eq_error_iff {answer : Data} :
    (∃ problem, modelsIn answer = .error problem) ↔
      ¬ answer.IsRecord ∨ ∃ model ∈ modelParts answer, ¬ model.IsRecord := by
  cases answer with
  | record fields =>
    have isRecord : (Data.record fields).IsRecord := trivial
    rw [modelsIn_record, exists_namesOf_eq_error_iff, or_iff_right (not_not_intro isRecord)]
  | null | bool | int | float | text | list => exact iff_of_true ⟨_, rfl⟩ (.inl not_false)

/-- Whether the call for the models says that a service can be reached. -/
def reachedIn : Except CallProblem HttpAnswer → Except ServiceProblem Bool
  | .ok answer => .ok (answer.status == HttpAnswer.okStatus)
  | .error (.network _) => .ok false
  | .error problem => .error (.call problem)

private theorem exists_reachedIn_eq_error_iff {called : Except CallProblem HttpAnswer} :
    (∃ problem, reachedIn called = .error problem) ↔
      ∃ problem, called = .error problem ∧ ¬ problem.IsNetwork := by
  cases called with
  | ok answer => simp [reachedIn]
  | error problem => cases problem <;> simp [reachedIn, CallProblem.IsNetwork]

private theorem ping_eq {state : Type} (service : LocalService) (transport : Transport state)
    (whole : state) : (service.ping transport whole).1 =
      reachedIn (transport.fetch service.modelsUrl service.timeout whole).1 := by
  rw [ping, run_bind]
  cases (transport.fetch service.modelsUrl service.timeout whole).1 with
  | ok answer => rfl
  | error problem => cases problem <;> rfl

end LocalService

namespace Service

variable {state : Type}

/-- What a service answers when it is asked for its models. -/
def listing (transport : Transport state) : Service → StateM state (Except CallProblem Data)
  | chat service => transport.listModels service.timeout
  | .hosted service => do
      return (← transport.fetch service.modelsUrl service.timeout).bind HttpAnswer.content

/-- The models in what a service has answered. -/
def modelsIn : Service → Except CallProblem Data → Except ServiceProblem (List Data)
  | chat _, .ok answer => .ok ((ChatService.modelsIn? answer).getD [])
  | chat _, .error _ => .ok []
  | .hosted _, .ok answer => LocalService.modelsIn answer
  | .hosted _, .error (.network _) | .hosted _, .error (.unreadable _) => .ok []
  | .hosted _, .error problem => .error (.call problem)

private theorem models_eq (transport : Transport state) (service : Service) (whole : state) :
    (service.models transport whole).1 = service.modelsIn (service.listing transport whole).1 := by
  cases service with
  | chat service =>
    have listed : (models transport (.chat service) whole).1 =
        .ok (service.models transport whole).1 := rfl
    rw [listed, ChatService.models, listing, run_bind]
    cases (transport.listModels service.timeout whole).1 <;> rfl
  | hosted service =>
    rw [models, LocalService.models, listing, run_bind, run_bind]
    cases (transport.fetch service.modelsUrl service.timeout whole).1.bind HttpAnswer.content with
    | error problem => cases problem <;> rfl
    | ok answer => rfl

/-- What a service cannot make a list of: a failure of the call that it does not expect, an answer
that is no record, and models among which there is something else than records. -/
inductive Unlistable : Service → Except CallProblem Data → Prop
  | call {service : LocalService} {problem : CallProblem} : ¬ problem.IsExpected →
      Unlistable (.hosted service) (.error problem)
  | answer {service : LocalService} {answer : Data} : ¬ answer.IsRecord →
      Unlistable (.hosted service) (.ok answer)
  | model {service : LocalService} {answer model : Data} : model ∈ LocalService.modelParts answer →
      ¬ model.IsRecord → Unlistable (.hosted service) (.ok answer)

/-- What a service names as a model: for a chat service the identifiers of the models, when all of
them have one and these can be sorted, and for a local service the filled names. -/
inductive Names : Service → Except CallProblem Data → Data → Prop
  | chat {service : ChatService} {models names : List Data} {name : Data} :
      models.mapM (Data.field? "id".toList) = some names → Data.Sortable names → name ∈ names →
      Names (.chat service) (.ok (.list models)) name
  | hosted {service : LocalService} {answer model name : Data} :
      model ∈ LocalService.modelParts answer → LocalService.nameIn? model = some name →
      Names (.hosted service) (.ok answer) name

theorem exists_modelsIn_eq_error_iff {service : Service} {answered : Except CallProblem Data} :
    (∃ problem, service.modelsIn answered = .error problem) ↔ service.Unlistable answered := by
  cases service with
  | chat service =>
    refine iff_of_false ?_ nofun
    rintro ⟨problem, failed⟩
    cases answered <;> cases failed
  | hosted service =>
    cases answered with
    | error problem =>
      have unlistable : (hosted service).Unlistable (.error problem) ↔ ¬ problem.IsExpected :=
        ⟨fun | .call unexpected => unexpected, .call⟩
      rw [unlistable]
      cases problem with
      | network | unreadable => exact iff_of_false nofun (not_not_intro trivial)
      | repair | other => exact iff_of_true ⟨_, rfl⟩ not_false
    | ok answer =>
      rw [modelsIn, LocalService.exists_modelsIn_eq_error_iff]
      constructor
      · rintro (foreign | ⟨model, member, foreign⟩)
        · exact .answer foreign
        · exact .model member foreign
      · rintro (_ | foreign | ⟨member, foreign⟩)
        · exact .inl foreign
        · exact .inr ⟨_, member, foreign⟩

private theorem mem_chat_modelsIn_iff {service : ChatService} {answer name : Data} :
    name ∈ (ChatService.modelsIn? answer).getD [] ↔ (chat service).Names (.ok answer) name := by
  cases answer with
  | list models =>
    have names : (chat service).Names (.ok (.list models)) name ↔
        ∃ names, models.mapM (Data.field? "id".toList) = some names ∧ Data.Sortable names ∧
          name ∈ names :=
      ⟨fun | .chat named sortable member => ⟨_, named, sortable, member⟩,
        fun ⟨_, named, sortable, member⟩ => .chat named sortable member⟩
    rw [names, ChatService.modelsIn?]
    cases models.mapM (Data.field? "id".toList) with
    | none => simp
    | some names =>
      rw [Option.bind_some]
      cases done : Data.sort? names with
      | none => simp [Data.sort?_eq_none_iff.mp done]
      | some sorted =>
        have sortable : Data.Sortable names := by
          rw [← not_not (a := Data.Sortable names), ← Data.sort?_eq_none_iff, done]
          exact Option.some_ne_none sorted
        simp [Data.mem_of_sort? done, sortable]
  | text value => cases value <;> exact iff_of_false List.not_mem_nil nofun
  | null | bool | int | float | record => exact iff_of_false List.not_mem_nil nofun

/-- When there is a list, what a service names as a model is on it and nothing else is. -/
theorem mem_modelsIn_iff {service : Service} {answered : Except CallProblem Data}
    {listed : List Data} (made : service.modelsIn answered = .ok listed) {name : Data} :
    name ∈ listed ↔ service.Names answered name := by
  cases service with
  | chat service =>
    cases answered with
    | error problem =>
      cases made
      exact iff_of_false List.not_mem_nil nofun
    | ok answer =>
      cases made
      exact mem_chat_modelsIn_iff
  | hosted service =>
    cases answered with
    | error problem =>
      cases problem <;> cases made <;> exact iff_of_false List.not_mem_nil nofun
    | ok answer =>
      have listable : ¬ ∃ problem, LocalService.modelsIn answer = .error problem := by
        rintro ⟨problem, failed⟩
        cases failed.symm.trans made
      rw [LocalService.exists_modelsIn_eq_error_iff, not_or, not_not] at listable
      push Not at listable
      cases made.symm.trans (LocalService.modelsIn_eq_ok listable.1 listable.2)
      rw [List.mem_filterMap]
      exact ⟨fun ⟨_, member, named⟩ => .hosted member named,
        fun | .hosted member named => ⟨_, member, named⟩⟩

/-- Whether it can be reached is told by every service, except where the call of a local one fails
otherwise than by the network. -/
theorem exists_ping_eq_error_iff {transport : Transport state} {service : Service} {whole : state} :
    (∃ problem, (service.ping transport whole).1 = .error problem) ↔
      ∃ asked problem, service = .hosted asked ∧
        (transport.fetch asked.modelsUrl asked.timeout whole).1 = .error problem ∧
        ¬ problem.IsNetwork := by
  cases service with
  | chat service =>
    refine iff_of_false ?_ ?_
    · rintro ⟨problem, failed⟩
      cases failed
    · rintro ⟨asked, problem, same, -⟩
      cases same
  | hosted service =>
    rw [ping, LocalService.ping_eq, LocalService.exists_reachedIn_eq_error_iff]
    simp only [hosted.injEq, exists_and_left, exists_eq_left']

/-- A list of models is made unless the answer is one that the service cannot make a list of, and
what it names is what the answer names. So a failed call gives an empty list where the failure is
expected, and the list holds only texts exactly when the answer names nothing else. Whether a
service can be reached is told unless the call of a local one fails otherwise than by the network.
-/
theorem models_fail_iff (transport : Transport state) (service : Service) (whole : state) :
    let answered := (service.listing transport whole).1
    let listed := (service.models transport whole).1
    ((∃ problem, listed = .error problem) ↔ service.Unlistable answered) ∧
    (∀ names, listed = .ok names → ∀ name, name ∈ names ↔ service.Names answered name) ∧
    (∀ problem, answered = .error problem → ¬ service.Unlistable answered → listed = .ok []) ∧
    ((∃ names : List Text, listed = .ok (names.map .text)) ↔
      ¬ service.Unlistable answered ∧ ∀ name, service.Names answered name → name.text? ≠ none) ∧
    ((∃ problem, (service.ping transport whole).1 = .error problem) ↔
      ∃ asked problem, service = .hosted asked ∧
        (transport.fetch asked.modelsUrl asked.timeout whole).1 = .error problem ∧
        ¬ problem.IsNetwork) := by
  intro answered listed
  have made : listed = service.modelsIn answered := models_eq transport service whole
  have fails : (∃ problem, listed = .error problem) ↔ service.Unlistable answered := by
    rw [made, exists_modelsIn_eq_error_iff]
  have named : ∀ names, listed = .ok names → ∀ name, name ∈ names ↔ service.Names answered name :=
    fun names done name => mem_modelsIn_iff (made.symm.trans done)
  refine ⟨fails, named, ?_, ?_, exists_ping_eq_error_iff⟩
  · intro problem failed listable
    cases done : listed with
    | error problem => exact absurd (fails.mp ⟨problem, done⟩) listable
    | ok names =>
      cases names with
      | nil => rfl
      | cons name names =>
        have there := (named _ done name).mp List.mem_cons_self
        rw [failed] at there
        cases there
  · constructor
    · rintro ⟨names, done⟩
      refine ⟨fun unlistable => ?_, fun name there => ?_⟩
      · obtain ⟨problem, failed⟩ := fails.mpr unlistable
        cases failed.symm.trans done
      · exact Data.exists_map_text_iff.mp ⟨names, rfl⟩ name ((named _ done name).mpr there)
    · rintro ⟨listable, texts⟩
      cases done : listed with
      | error problem => exact absurd (fails.mp ⟨problem, done⟩) listable
      | ok names =>
        obtain ⟨texts, rfl⟩ := Data.exists_map_text_iff.mpr fun name member =>
          texts name ((named _ done name).mp member)
        exact ⟨texts, rfl⟩

/-- A local service that answers with an empty list instead of a record fails, and one that names a
model by a number has this number on its list. -/
theorem hosted_models_misshapen :
    let service : Service :=
      .hosted ⟨"http://localhost:11434".toList, "qwen2.5".toList, .whole 5, .ofInt 2⟩
    let numbered : Data :=
      .record [("models".toList, .list [.record [("name".toList, .int 5)]])]
    (service.models (answering (.list [])) ()).1 = .error (.noLookup "list".toList) ∧
    (service.models (answering numbered) ()).1 = .ok [.int 5] ∧
    ¬ ∀ (transport : Transport Unit) (service : Service),
        ∃ names : List Text, (service.models transport ()).1 = .ok (names.map .text) := by
  intro service numbered
  refine ⟨rfl, rfl, fun told => ?_⟩
  obtain ⟨names, done⟩ := told (answering (.list [])) service
  cases done

end Service

end FormulaRepair

import FormulaRepair.Cleaning
import FormulaRepair.Prompt
import FormulaRepair.Repair
import FormulaRepair.Retry

/-! # The answer of a service

Every service is asked the same question, and in every answer the model's text is cleaned before it
becomes a reply. What a service sends back has no promised shape, so it is taken apart step by step,
and each step may fail.
-/

namespace FormulaRepair

/-- How a service fails. -/
inductive ServiceProblem
  /-- There is no replacement, for the reason told. -/
  | repair (message : Text)
  /-- The answer of the model is a value of this kind instead of a text. -/
  | answerNotText (kind : Text)
  /-- The name of the model is no text; the message for it is not the program's own. -/
  | modelNotText (message : Text)
  /-- A part was looked up by its place in a value of this kind, which has no places. -/
  | noPlaces (kind : Text)
  /-- A part was looked up by name in a value of this kind, which has no such lookup. -/
  | noLookup (kind : Text)
  /-- The limit on attempts is a value of this kind, which cannot be compared with a number. -/
  | limitNotNumber (kind : Text)
  /-- A call failed in a way that is not taken care of. -/
  | call (problem : CallProblem)
deriving Repr, Inhabited

namespace ServiceProblem

/-- The message of a service that failed. -/
def message : ServiceProblem → Text
  | repair message | modelNotText message => message
  | answerNotText kind =>
      "expected string or bytes-like object, got '".toList ++ kind ++ ['\'']
  | noPlaces kind => '\'' :: kind ++ "' object is not subscriptable".toList
  | noLookup kind => '\'' :: kind ++ "' object has no attribute 'get'".toList
  | limitNotNumber kind => (Retry.Problem.incomparable kind).message
  | call problem => problem.message

/-- The failure of a service whose attempts ended without a value. -/
def ofRetry : Retry.Problem → ServiceProblem
  | .incomparable kind => limitNotNumber kind
  | other => repair other.message

/-- The failure for an answer that lacks a part. -/
def malformed (service : Text) : ServiceProblem :=
  repair (service ++ " returned a malformed response".toList)

/-- The failure for an answer without a formula. -/
def emptyFormula (service : Text) : ServiceProblem :=
  repair (service ++ " returned an empty formula".toList)

end ServiceProblem

/-- The conversation in which a repair is asked for. -/
def RepairRequest.messages (request : RepairRequest) : List Message :=
  [ ⟨"system".toList, Prompt.system⟩
  , ⟨"user".toList, Prompt.user request.latex request.errorMessage request.context⟩ ]

namespace Service

/-- How freely a model may answer. -/
def temperature : Float := 0.2

/-- The most that a chat service may answer. -/
def maxTokens : Nat := 512

/-- How a service looks at the values in an answer: whether they count as filled, what their kinds are
called, how records are written, and what is said of a model's name that is no text. -/
structure Outlook where
  isFilled : Data → Bool
  kindName : Data → Text
  recordForm : Data.RecordForm
  notText : Data → Text

/-- The formula in the answer of a model; an answer that counts as empty has none. -/
def formulaOf (service : Text) (outlook : Outlook) (answer : Data) :
    Except ServiceProblem Text :=
  let output : Except ServiceProblem Text :=
    if outlook.isFilled answer then
      match answer with
      | .text output => .ok output
      | other => .error (.answerNotText (outlook.kindName other))
    else .ok []
  output.bind fun output =>
    let formula := Cleaning.clean output
    if formula.isEmpty then .error (.emptyFormula service) else .ok formula

/-- The model named in an answer, or the one that was asked when none is named. -/
def modelOf (outlook : Outlook) (asked : Text) (named : Option Data) :
    Except ServiceProblem Text :=
  match named with
  | none => .ok asked
  | some value =>
      if outlook.isFilled value then
        match value with
        | .text model => .ok model
        | other => .error (.modelNotText (outlook.notText other))
      else .ok asked

/-- The reply in the parts of an answer. The formula is looked at before the model. -/
def replyOf (service : Text) (outlook : Outlook) (asked : Text) (answer : Data)
    (named : Option Data) : Except ServiceProblem RepairReply := do
  let latex ← formulaOf service outlook answer
  let model ← modelOf outlook asked named
  return ⟨latex, model⟩

/-- What the repair calls of a service are named in messages. -/
def callName (service : Text) : Text := service ++ " fix request".toList

end Service

end FormulaRepair

import FormulaRepair.Fault
import FormulaRepair.Settings

/-! # The way to a service

What is sent to a service and what can come back. The components behind it are outside of this
library: a transport is whatever answers these calls, with a state of its own.
-/

namespace FormulaRepair

/-- What a call to a service can fail with. -/
inductive CallProblem
  /-- The service was not reached, or refused to answer. -/
  | network (fault : Fault)
  /-- The answer could not be read. -/
  | unreadable (fault : Fault)
  /-- The call was given up as a repair. -/
  | repair (message : Text)
  /-- Any other fault. -/
  | other (fault : Fault)
deriving DecidableEq, Repr, Inhabited

/-- The message of a failed call. -/
def CallProblem.message : CallProblem → Text
  | network fault | unreadable fault | other fault => fault.message
  | repair message => message

/-- One message of a conversation, with the role of its speaker. -/
structure Message where
  role : Text
  content : Text
deriving DecidableEq, Repr, Inhabited

/-- The address and the key under which a chat service is reached. The connection itself never tries
again. -/
structure Connection where
  baseUrl : Text
  key : Text
  retries : Nat := 0
deriving DecidableEq, Repr, Inhabited

/-- A question to a chat service. -/
structure ChatCall where
  model : Text
  messages : List Message
  temperature : Float
  maxTokens : Nat
  timeout : Seconds
deriving Repr, Inhabited

/-- A question posted to an address. -/
structure PostCall where
  url : Text
  model : Text
  messages : List Message
  stream : Bool
  temperature : Float
  timeout : Seconds
deriving Repr, Inhabited

/-- The answer to a posted question or a fetched address: a status, the fault that an error status
stands for, and a body that may not decode. -/
structure HttpAnswer where
  status : Int
  refusal : Option Fault := none
  body : Except CallProblem Data

instance : Inhabited HttpAnswer := ⟨{ status := 200, body := .ok .null }⟩

/-- The status of a complete answer. -/
def HttpAnswer.okStatus : Int := 200

/-- The body of an answer that is not refused. -/
def HttpAnswer.content (answer : HttpAnswer) : Except CallProblem Data :=
  match answer.refusal with
  | some fault => .error (.network fault)
  | none => answer.body

/-- The words for values that are not the program's own: what the kind of the records in the answers of
chat services is called, in full and for short, how these are written, and the message for a model's
name that is no text, given as it is written and its kind. -/
structure Wording where
  recordKind : Text
  shortRecordKind : Text
  recordForm : Data.RecordForm
  notText : Text → Text → Text

/-- The words of a transport that has none of its own. -/
def Wording.plain : Wording where
  recordKind := "record".toList
  shortRecordKind := "record".toList
  recordForm := Data.inBraces
  notText written kind := written ++ " is no text but of the kind ".toList ++ kind

/-- What answers the calls to a service, and what it calls the values in its answers. -/
structure Transport (state : Type) where
  connect : Connection → StateM state Unit
  chat : ChatCall → StateM state (Except CallProblem Data)
  listModels : Seconds → StateM state (Except CallProblem Data)
  post : PostCall → StateM state (Except CallProblem HttpAnswer)
  fetch : Text → Seconds → StateM state (Except CallProblem HttpAnswer)
  pause : Float → StateM state Unit
  wording : Wording

/-- The same transport for a larger state. -/
def Transport.lift {small large : Type} (run : {α : Type} → StateM small α → StateM large α)
    (transport : Transport small) : Transport large where
  connect connection := run (transport.connect connection)
  chat call := run (transport.chat call)
  listModels timeout := run (transport.listModels timeout)
  post call := run (transport.post call)
  fetch url timeout := run (transport.fetch url timeout)
  pause seconds := run (transport.pause seconds)
  wording := transport.wording

end FormulaRepair

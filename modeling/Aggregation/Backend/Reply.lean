import Aggregation.Json.Reader
import Aggregation.Request
import Aggregation.Resource

namespace Aggregation.Backend

/-! The backend's answers.

The body of an answer is a record of `data` and `errors`.  Errors win if the
whole body reads as such a record; else a status other than success counts;
else the data has to be there.
-/

/-- What a query's data looks like: a record with one member. -/
def payload? {α : Type} (key : String) (read : Json → Option α) (tree : Json) : Option α := do
  guard (tree.isRecord [key])
  Json.required read (tree.member? 0 key)

def pagePayload? : Json → Option AggregationPage :=
  payload? "recordsAggregation" AggregationPage.ofJson?

def resourcePayload? : Json → Option Resource := payload? "resource" Resource.ofJson?

def catalogPayload? : Json → Option Introspection := Introspection.ofEnvelope?

/-- The message of one of an answer's errors. -/
def errorMessage? (tree : Json) : Option String := do
  guard (tree.isRecord ["message"])
  Json.required Json.text? (tree.member? 0 "message")

structure Envelope (α : Type) where
  data : Option α
  errors : Option (List String)

/-- Reads a body.  Written as an array, it cannot do without its data. -/
def Envelope.ofJson? {α : Type} (read : Json → Option α) (tree : Json) : Option (Envelope α) := do
  guard (tree.isRecord ["data", "errors"])
  guard (!(tree matches .array []))
  let data ← Json.optional read (tree.member? 0 "data")
  let errors ← Json.optional (Json.list? errorMessage?) (tree.member? 1 "errors")
  return ⟨data, errors⟩

def isSuccess (status : Nat) : Bool := 200 ≤ status && status < 300

/-- What an answer says when it reports no errors. -/
def withoutErrors {α : Type} (status : Nat) (body : List UInt8) (envelope : Option (Envelope α)) :
    Except NetworkError α :=
  if !isSuccess status then .error (.status status (Text.Utf8.lossy body))
  else match envelope with
    | none => .error (.decode Json.faultText)
    | some ⟨none, _⟩ => .error (.decode "response has no data")
    | some ⟨some data, _⟩ => .ok data

/-- Turns the status and body of an answer into the data asked for. -/
def decodeResponse {α : Type} (read : Json → Option α) (status : Nat) (body : List UInt8) :
    Except NetworkError α :=
  let envelope := (Json.treeOfBytes? body).bind (Envelope.ofJson? read)
  match envelope with
  | some ⟨_, some (first :: rest)⟩ => .error (.graphQl (first :: rest))
  | _ => withoutErrors status body envelope

end Aggregation.Backend

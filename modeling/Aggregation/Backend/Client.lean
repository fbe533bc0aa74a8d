import Aggregation.Json.Printer
import Aggregation.Backend.Endpoint
import Aggregation.Backend.Query
import Aggregation.Backend.Reply

namespace Aggregation.Backend

/-! The client of a backend.

A client prepares a request and concludes from what came of sending it.  Sending
itself is a function that the client is given, so that all else is independent of
any network.
-/

structure HttpRequest where
  endpoint : Endpoint
  headers : List (String × String)
  body : String

inductive Exchange where
  /-- No connection was made. -/
  | unreachable
  /-- No answer came in time. -/
  | unanswered
  /-- The answer broke off. -/
  | interrupted
  | answered (status : Nat) (body : List UInt8)

structure Client where
  endpoint : Endpoint
  token : Option String := none
  /-- How long an answer is waited for, in milliseconds. -/
  timeout : Nat
  maxDepth : Nat := Catalog.defaultMaxDepth

namespace Client

def connect (address : String) (timeout : Nat) : Except NetworkError Client :=
  match Endpoint.ofText address with
  | .ok endpoint => .ok { endpoint, timeout }
  | .error error =>
    .error (.transport ("Invalid endpoint " ++ address ++ ": " ++ error.message))

/-- Whether a text can stand in a header: it has no control characters but tabs. -/
def isHeaderText (text : String) : Bool :=
  text.toList.all fun c => (32 ≤ c.toNat && c.toNat != 127) || c == '\t'

/-- The request that posts a query with the values of its variables. -/
def prepare (client : Client) (query : String) (arguments : Json) :
    Except NetworkError HttpRequest :=
  if client.token.any (!isHeaderText ·) then .error (.transport "failed to parse header value")
  else if !client.endpoint.isAbsolute then
    .error (.transport "client error (UserAbsoluteUriRequired)")
  else
    let payload := Json.sortedObject [("query", .string query), ("variables", arguments)]
    .ok {
      endpoint := client.endpoint
      headers := [("content-type", "application/json"), ("accept", "application/json")] ++
        client.token.toList.map fun token => ("authorization", "Bearer " ++ token)
      body := payload.compact }

def conclude {α : Type} (client : Client) (read : Json → Option α) :
    Exchange → Except NetworkError α
  | .unreachable => .error (.transport "client error (Connect)")
  | .unanswered => .error (.timeout client.timeout)
  | .interrupted => .error (.transport "error reading a body from connection")
  | .answered status body => decodeResponse read status body

def execute {α : Type} (client : Client) (send : HttpRequest → Exchange)
    (read : Json → Option α) (query : String) (arguments : Json) : Except NetworkError α := do
  let request ← client.prepare query arguments
  client.conclude read (send request)

def resource (client : Client) (send : HttpRequest → Exchange) (id : String) :
    Except NetworkError Resource :=
  client.execute send resourcePayload? resourceQuery (.object [("id", .string id)])

/-- The type catalog, which expands fields to the client's depth. -/
def catalog (client : Client) (send : HttpRequest → Exchange) : Except NetworkError Catalog := do
  let introspection ← client.execute send catalogPayload? introspectionQuery (.object [])
  return (Catalog.ofIntrospection introspection).withMaxDepth client.maxDepth

def fetch (client : Client) (send : HttpRequest → Exchange) (request : AggregationRequest) :
    Except NetworkError AggregationPage :=
  client.execute send pagePayload? pageQuery request.queryVariables.normal

def source (client : Client) (send : HttpRequest → Exchange) : MetadataSource :=
  ⟨client.resource send, client.catalog send⟩

end Client

end Aggregation.Backend

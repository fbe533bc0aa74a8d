namespace Aggregation

/-! What can go wrong, by cause, and the text shown for each cause. -/

/-- A flaw of the fields and types, or of a reference into them. -/
inductive SchemaError where
  | unknownField (path : String)
  | unknownType (name : String)
  | unknownQuery (name : String)
  | malformedField (name reason : String)
deriving DecidableEq, Repr

namespace SchemaError

def message : SchemaError → String
  | unknownField path => "Unknown field: " ++ path
  | unknownType name => "Unknown type: " ++ name
  | unknownQuery name => "Unknown query: " ++ name
  | malformedField name reason => "Malformed field '" ++ name ++ "': " ++ reason

end SchemaError

/-- Something a user has to set right before a stage, request or spec can be used. -/
inductive ValidationError where
  | missingValue (path : String)
  | invalidJson (detail : String)
  | sortFieldMissing (field : String)
  | sortFieldNotScalar (field : String)
  | invalidSortOrder (order : String)
  | invalidPageSize
  | stageOutOfBounds (index length : Nat)
  | invalidContextFilters (detail : String)
deriving DecidableEq, Repr

namespace ValidationError

def message : ValidationError → String
  | missingValue path => "Required value '" ++ path ++ "' is missing"
  | invalidJson detail => "Custom stage is not valid JSON: " ++ detail
  | sortFieldMissing field =>
    "Sort field '" ++ field ++ "' is not available at the end of the pipeline"
  | sortFieldNotScalar field => "Sort field '" ++ field ++ "' is not a scalar"
  | invalidSortOrder order => "Sort order '" ++ order ++ "' is not one of asc, desc"
  | invalidPageSize => "Page size must be greater than zero"
  | stageOutOfBounds index length =>
    "Stage index " ++ toString index ++ " out of bounds (pipeline has " ++ toString length ++
      " stages)"
  | invalidContextFilters detail => "Context filters are not valid JSON: " ++ detail

end ValidationError

inductive NetworkError where
  /-- The messages of the answer's errors, in order. -/
  | graphQl (messages : List String)
  | transport (detail : String)
  | status (code : Nat) (body : String)
  | decode (detail : String)
  | timeout (milliseconds : Nat)
deriving DecidableEq, Repr

namespace NetworkError

def message : NetworkError → String
  | graphQl messages => messages.headD "GraphQL request failed"
  | transport detail => "Transport error: " ++ detail
  | status code body => "Backend responded with status " ++ toString code ++ ": " ++ body
  | decode detail => "Unexpected response payload: " ++ detail
  | timeout milliseconds => "Request timed out after " ++ toString milliseconds ++ " ms"

/-- All messages in one line. -/
def banner : NetworkError → String
  | graphQl (first :: rest) => ", ".intercalate (first :: rest)
  | other => other.message

end NetworkError

/-- Something worth knowing that stands in nobody's way. -/
inductive Warning where
  | unwindNotList (field kind : String)
  | unwindNameCollision (field child : String)
  | uncheckedCustomStage
deriving DecidableEq, Repr

namespace Warning

def message : Warning → String
  | unwindNotList field kind =>
    "Unwind on '" ++ field ++ "' ignored: field is " ++ kind ++ ", not a list"
  | unwindNameCollision field child =>
    "Unwind on '" ++ field ++ "' dropped '" ++ child ++ "': a sibling field already has that name"
  | uncheckedCustomStage =>
    "Custom stage output is not checked; downstream fields may not exist"

end Warning

inductive EngineError where
  | schema (error : SchemaError)
  | validation (error : ValidationError)
  | network (error : NetworkError)
deriving DecidableEq, Repr

namespace EngineError

def innerMessage : EngineError → String
  | schema error => error.message
  | validation error => error.message
  | network error => error.message

def message : EngineError → String
  | schema error => "Schema error: " ++ error.message
  | validation error => "Validation error: " ++ error.message
  | network error => "Network error: " ++ error.message

end EngineError

end Aggregation

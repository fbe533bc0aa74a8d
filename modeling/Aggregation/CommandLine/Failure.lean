import Aggregation.Spec

namespace Aggregation.CommandLine

/-! Why a command fails, by cause, and the text shown for each cause. -/

inductive Failure where
  | unreadableSpec (path : String)
  | invalidSpec (path : String)
  | unreadableCatalog (path : String)
  | invalidCatalog (path : String)
  /-- The catalog's file is JSON, but no introspection result. -/
  | notIntrospection
  | invalidDashboard
  | schema (error : SchemaError)
  | validation (error : ValidationError)
  | network (error : NetworkError)
  | engine (error : EngineError)
  | unsavable (issues : SpecIssues)
  | blocked (diagnostic : Diagnostic)
  /-- The page could not be loaded; the message is the grid's. -/
  | notLoaded (message : String)
  | unknownLevel
deriving DecidableEq, Repr

def Failure.message : Failure → String
  | unreadableSpec path => "Failed to read spec " ++ path
  | invalidSpec path => "Invalid spec " ++ path
  | unreadableCatalog path => "Failed to read catalog " ++ path
  | invalidCatalog path => "Invalid catalog " ++ path
  | notIntrospection => "Catalog is not an introspection result"
  | invalidDashboard => "--dashboard is not valid JSON"
  | schema error => error.message
  | validation error => error.message
  | network error => error.message
  | engine error => error.message
  | unsavable issues => issues.text
  | blocked diagnostic =>
    "stage " ++ toString diagnostic.stage ++ ": " ++ diagnostic.issue.message
  | notLoaded message => message
  | unknownLevel =>
    "error parsing level filter: expected one of \"off\", \"error\", \"warn\", \"info\", " ++
      "\"debug\", \"trace\", or a number 0-5"

end Aggregation.CommandLine

import Aggregation.Calendar.Rfc3339
import Aggregation.Decimal.Shortest
import Aggregation.Json.Printer
import Aggregation.Placeholder

namespace Aggregation.AsOf

/-! The point in time that a request asks for.

A timestamp is brought to UTC and milliseconds, a date means its first moment in
UTC, and any other text is a version token that is passed on.
-/

def normalize (literal : String) : String :=
  match Moment.ofText? literal with
  | some moment => moment.text
  | none => match Date.ofText? literal with
    | some date => (Moment.midnight date).text
    | none => literal

/-- The text that a dashboard value gives for a point in time. -/
def dashboardText? : Json → Option String
  | .string text => some (Text.trim text)
  | .number number => some number.text
  | _ => none

/-- The text to be normalized: what a placeholder stands for, or the configured
text itself; it has no blanks at its ends, but may be empty. -/
def literal? (raw : String) (dashboard : Json) : Option String :=
  let trimmed := Text.trim raw
  match Placeholder.path? trimmed with
  | some path => (Dashboard.lookup? dashboard path).bind dashboardText?
  | none => some trimmed

/-- The point in time that a configured text asks for, if any. -/
def resolve? (raw : String) (dashboard : Json) : Option String :=
  match literal? raw dashboard with
  | some literal => if literal.isEmpty then none else some (normalize literal)
  | none => none

end Aggregation.AsOf

import Mathlib.Data.List.Nodup
import Aggregation.Backend.Reply
import Aggregation.Proofs.Json.Record

namespace Aggregation.Backend

/-! When the errors that an answer reports are what is told.

They are meant to win over everything else, but they are seen only if the whole body
can be read, and so only if the data beside them is absent, `null` or complete.  Data
that is there in part hides them.
-/

/-- Whether a tree is an object with a text for its `message`. -/
def IsError (tree : Json) (message : String) : Prop :=
  ∃ members, tree = .object members ∧ (members.map (·.1)).Nodup ∧
    members.lookup "message" = some (.string message)

/-- Whether a body is the text of an object whose `errors` have these messages. -/
structure Reports (body : List UInt8) (members : List (String × Json))
    (messages : List String) : Prop where
  text : Json.treeOfBytes? body = some (.object members)
  distinct : (members.map (·.1)).Nodup
  listed : ∃ errors, members.lookup "errors" = some (.array errors) ∧
    List.Forall₂ IsError errors messages
  nonempty : messages ≠ []

/-- Whether an answer's data is not there, is `null` or is all that was asked for. -/
def DataFits {α : Type} (read : Json → Option α) (members : List (String × Json)) : Prop :=
  ∀ data, members.lookup "data" = some data → data = .null ∨ ∃ payload, read data = some payload

variable {α : Type} {read : Json → Option α} {status : Nat} {body : List UInt8}
  {members : List (String × Json)} {keys messages : List String}

theorem isRecord_of_nodup (distinct : (members.map (·.1)).Nodup) :
    (Json.object members).isRecord keys = true := by
  rw [Json.isRecord, List.all_eq_true]
  intro key _
  have once := List.nodup_iff_count_le_one.mp distinct key
  rw [List.count, List.countP_map, List.countP_eq_length_filter] at once
  exact decide_eq_true once

theorem guard_of_holds {condition : Prop} [Decidable condition] (holds : condition)
    (rest : Option α) : (do guard condition; rest) = rest := by
  rw [guard, if_pos holds]
  rfl

theorem errorMessage?_of_isError {tree : Json} {message : String} (error : IsError tree message) :
    errorMessage? tree = some message := by
  obtain ⟨members, rfl, distinct, found⟩ := error
  rw [errorMessage?, guard_of_holds (isRecord_of_nodup distinct), Json.member?, found]
  rfl

theorem mapM_errorMessage? {errors : List Json} (each : List.Forall₂ IsError errors messages) :
    errors.mapM errorMessage? = some messages :=
  Json.mapM_eq_some_iff.mpr (each.imp fun _ _ error => errorMessage?_of_isError error)

theorem optional_data_eq_none_iff :
    Json.optional read (members.lookup "data") = none ↔ ¬ DataFits read members := by
  cases found : members.lookup "data" with
  | none => simp [Json.optional, DataFits, found]
  | some data =>
      cases data <;> simp [Json.optional, DataFits, found, Option.eq_none_iff_forall_ne_some]

/-- A body that reports errors is read just if its data can be. -/
theorem Reports.envelope (reports : Reports body members messages) :
    (Json.treeOfBytes? body).bind (Envelope.ofJson? read) =
      (Json.optional read (members.lookup "data")).map (⟨·, some messages⟩) := by
  obtain ⟨errors, listed, each⟩ := reports.listed
  have reported : Json.optional (Json.list? errorMessage?) (members.lookup "errors") =
      some (some messages) := by
    rw [listed, Json.optional, Json.list?, mapM_errorMessage? each]
    · rfl
    · intro same
      contradiction
  rw [reports.text, Option.bind_some]
  -- An object is never the empty array, so nothing is left of the second condition.
  change (do
    guard ((Json.object members).isRecord ["data", "errors"] = true)
    let data ← Json.optional read (members.lookup "data")
    let errors ← Json.optional (Json.list? errorMessage?) (members.lookup "errors")
    return (⟨data, errors⟩ : Envelope α)) = _
  rw [guard_of_holds (isRecord_of_nodup reports.distinct), reported]
  cases Json.optional read (members.lookup "data") <;> rfl

theorem withoutErrors_none_ne_graphQl :
    withoutErrors (α := α) status body none ≠ .error (.graphQl messages) := by
  unfold withoutErrors
  split <;> simp

theorem Reports.decodeResponse_of_dataFits (reports : Reports body members messages)
    (fits : DataFits read members) :
    decodeResponse read status body = .error (.graphQl messages) := by
  obtain ⟨first, rest, rfl⟩ := List.exists_cons_of_ne_nil reports.nonempty
  cases data : Json.optional read (members.lookup "data") with
  | none => exact (optional_data_eq_none_iff.mp data fits).elim
  | some data' => simp only [decodeResponse, reports.envelope, data, Option.map_some]

theorem Reports.decodeResponse_of_not_dataFits (reports : Reports body members messages)
    (hidden : ¬ DataFits read members) :
    decodeResponse read status body = withoutErrors status body none := by
  have unread := optional_data_eq_none_iff.mpr hidden
  simp only [decodeResponse, reports.envelope, unread, Option.map_none]

theorem Reports.decodeResponse_eq_graphQl_iff (reports : Reports body members messages) :
    decodeResponse read status body = .error (.graphQl messages) ↔ DataFits read members := by
  constructor
  · intro told
    by_contra hidden
    rw [reports.decodeResponse_of_not_dataFits hidden] at told
    exact withoutErrors_none_ne_graphQl told
  · exact reports.decodeResponse_of_dataFits

/-- Whatever the status, an answer that reports errors is taken for them just if the
data beside them is not there, is `null` or is complete. -/
theorem reported_errors_win_iff (status : Nat) (reports : Reports body members messages) :
    (decodeResponse pagePayload? status body = .error (.graphQl messages) ↔
        DataFits pagePayload? members) ∧
      (decodeResponse resourcePayload? status body = .error (.graphQl messages) ↔
        DataFits resourcePayload? members) ∧
      (decodeResponse catalogPayload? status body = .error (.graphQl messages) ↔
        DataFits catalogPayload? members) :=
  ⟨reports.decodeResponse_eq_graphQl_iff, reports.decodeResponse_eq_graphQl_iff,
    reports.decodeResponse_eq_graphQl_iff⟩

/-- The body of an answer to a query that took too long, with a text for its data. -/
def timedOut (data : String) : List UInt8 :=
  ("\x7b\"errors\":[\x7b\"message\":\"Timed out\"\x7d],\"data\":" ++ data ++
    "\x7d").toUTF8.data.toList

def timedOutMembers (data : Json) : List (String × Json) :=
  [("errors", .array [.object [("message", .string "Timed out")]]), ("data", data)]

theorem timedOut_reports {data : Json}
    (text : Json.treeOfBytes? body = some (.object (timedOutMembers data))) :
    Reports body (timedOutMembers data) ["Timed out"] where
  text := text
  distinct := (by decide : ["errors", "data"].Nodup)
  listed := ⟨_, rfl, .cons ⟨_, rfl, (by decide : ["message"].Nodup), rfl⟩ .nil⟩
  nonempty := nofun

theorem timedOut_null_wins :
    Reports (timedOut "null") (timedOutMembers .null) ["Timed out"] ∧
      decodeResponse pagePayload? 502 (timedOut "null") = .error (.graphQl ["Timed out"]) := by
  have reports : Reports (timedOut "null") (timedOutMembers .null) ["Timed out"] :=
    timedOut_reports rfl
  refine ⟨reports, (reported_errors_win_iff 502 reports).1.mpr ?_⟩
  intro data found
  cases found
  exact .inl rfl

/-- Data without the page that was asked for hides the error beside it. -/
theorem timedOut_missingPage_hidden :
    Reports (timedOut "\x7b\"recordsAggregation\":null\x7d")
        (timedOutMembers (.object [("recordsAggregation", .null)])) ["Timed out"] ∧
      decodeResponse pagePayload? 200 (timedOut "\x7b\"recordsAggregation\":null\x7d") =
        .error (.decode Json.faultText) := by
  have reports := timedOut_reports
    (show Json.treeOfBytes? (timedOut "\x7b\"recordsAggregation\":null\x7d") =
      some (.object (timedOutMembers (.object [("recordsAggregation", .null)]))) from rfl)
  refine ⟨reports, reports.decodeResponse_of_not_dataFits fun fits => ?_⟩
  rcases fits _ rfl with absent | ⟨page, complete⟩
  · contradiction
  · contradiction

end Aggregation.Backend

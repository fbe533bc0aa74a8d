import Aggregation.Resource
import Aggregation.Proofs.Catalog.Expansion
import Aggregation.Proofs.Catalog.Selection

namespace Aggregation.Catalog

/-! Catalogs that have all the types they refer to.

However their types refer to each other, and whatever their depth, nothing about them is an
error but a query that the root type does not have.
-/

/-- Whether a name is that of a type. -/
def Knows (catalog : Catalog) (name : String) : Prop := (catalog.type? name).isSome = true

instance (catalog : Catalog) (name : String) : Decidable (catalog.Knows name) :=
  inferInstanceAs (Decidable (_ = true))

/-- Whether a field has a named type, and one that is known. -/
def Leads (catalog : Catalog) (field : MetaField) : Prop :=
  ∃ inner, field.typeRef.namedType? = some inner ∧ catalog.Knows inner

instance (catalog : Catalog) (field : MetaField) : Decidable (catalog.Leads field) :=
  decidable_of_iff (field.typeRef.namedType?.any (catalog.Knows ·) = true)
    (by simp [Leads, Option.any_eq_true])

/-- Whether all fields of all types have known types. -/
def Closed (catalog : Catalog) : Prop :=
  ∀ name type, catalog.type? name = some type →
    ∀ field ∈ type.fields.getD [], catalog.Leads field

/-- Whether a query is a field of the root type. -/
def Serves (catalog : Catalog) (query : String) : Prop :=
  ∃ root, catalog.type? catalog.queryType = some root ∧
    ∃ field ∈ root.fields.getD [], field.name = query

instance (catalog : Catalog) (query : String) : Decidable (catalog.Serves query) :=
  decidable_of_iff (((catalog.type? catalog.queryType).any fun root =>
    (root.fields.getD []).any (·.name = query)) = true) (by simp [Serves, Option.any_eq_true])

/-- Whether there is an answer for just the queries that are served, and otherwise the error
that says so. -/
structure AnswersServed {α : Type} (catalog : Catalog) (query : String)
    (answer : Except SchemaError α) : Prop where
  answered_iff : (∃ result, answer = .ok result) ↔ catalog.Serves query
  refused : ∀ error, answer = .error error → error = .unknownQuery query

variable {catalog : Catalog} {query name : String} {visited : List String} {levels : Nat}
  {field : MetaField} {fields : List MetaField} {type : MetaType}

theorem exists_type? (known : catalog.Knows name) : ∃ type, catalog.type? name = some type :=
  Option.isSome_iff_exists.mp known

theorem typeFields_of_type? (found : catalog.type? name = some type) :
    catalog.typeFields name = .ok (type.fields.getD []) := by
  rw [typeFields, found]

theorem Leads.exists_namedTypeFor (leads : catalog.Leads field) :
    ∃ name, field.typeRef.namedTypeFor field.name = .ok name ∧ catalog.Knows name := by
  obtain ⟨name, given, known⟩ := leads
  exact ⟨name, namedTypeFor_eq_ok_iff.mpr given, known⟩

theorem closed_of_types
    (leads : ∀ type ∈ catalog.types, ∀ field ∈ type.fields.getD [], catalog.Leads field) :
    catalog.Closed := fun _ type found =>
  leads type (List.mem_filter.mp (List.mem_of_getLast? found)).1

theorem AnswersServed.eq_error {α : Type} {answer : Except SchemaError α}
    (answers : catalog.AnswersServed query answer) (unserved : ¬ catalog.Serves query) :
    answer = .error (.unknownQuery query) := by
  cases answer with
  | error error => rw [answers.refused error rfl]
  | ok result => exact absurd (answers.answered_iff.mp ⟨result, rfl⟩) unserved

theorem AnswersServed.bind {α β : Type} {answer : Except SchemaError α}
    {next : α → Except SchemaError β} (first : catalog.AnswersServed query answer)
    (total : ∀ before, answer = .ok before → ∃ result, next before = .ok result) :
    catalog.AnswersServed query (answer >>= next) := by
  cases answer with
  | error error =>
      have unserved : ¬ catalog.Serves query := fun served => nomatch first.answered_iff.mpr served
      refine ⟨⟨nofun, fun served => absurd served unserved⟩, fun other failed => ?_⟩
      obtain rfl : error = other := Except.error.inj failed
      exact first.refused error rfl
  | ok before =>
      obtain ⟨result, after⟩ := total before rfl
      have served : catalog.Serves query := first.answered_iff.mp ⟨before, rfl⟩
      refine ⟨⟨fun _ => served, fun _ => ⟨result, after⟩⟩, fun error failed => ?_⟩
      exact nomatch after.symm.trans failed

section Expanding

theorem Closed.exists_typeFields (closed : catalog.Closed) (known : catalog.Knows name) :
    ∃ fields, catalog.typeFields name = .ok fields ∧ ∀ field ∈ fields, catalog.Leads field := by
  obtain ⟨type, found⟩ := exists_type? known
  exact ⟨_, typeFields_of_type? found, closed name type found⟩

theorem exists_expandEach {expandOne : MetaField → Except SchemaError (Option Field)}
    (each : ∀ field ∈ fields, ∃ expanded, expandOne field = .ok expanded) :
    ∃ result, expandEach expandOne fields = .ok result := by
  induction fields with
  | nil => exact ⟨[], rfl⟩
  | cons field rest ih =>
      obtain ⟨first, others⟩ := List.forall_mem_cons.mp each
      obtain ⟨expanded, one⟩ := first
      obtain ⟨result, later⟩ := ih others
      rw [expandEach_of_ok one, later]
      exact ⟨_, rfl⟩

/-- A field can be expanded if the types one level further down can be. -/
theorem exists_expandField (leads : catalog.Leads field)
    (deeper : ∀ name fewer, levels = fewer + 1 → catalog.Knows name →
      ∃ subFields, catalog.expandType name (name :: visited) fewer = .ok subFields) :
    ∃ expanded, catalog.expandField visited levels field = .ok expanded := by
  obtain ⟨name, named, known⟩ := leads.exists_namedTypeFor
  cases composite : field.typeRef.isComposite with
  | false => exact ⟨_, expandField_of_leaf named composite⟩
  | true =>
      by_cases barred : levels = 0 ∨ name ∈ visited
      · exact ⟨_, expandField_of_left_out named composite barred⟩
      · obtain ⟨remaining, fresh⟩ := not_or.mp barred
        obtain ⟨fewer, rfl⟩ := Nat.exists_eq_succ_of_ne_zero remaining
        obtain ⟨subFields, inner⟩ := deeper name fewer rfl known
        rw [expandField_succ named composite fresh, inner]
        exact ⟨_, rfl⟩

/-- Types can be expanded at any depth, with any types visited. -/
theorem Closed.exists_expandType (closed : catalog.Closed) (known : catalog.Knows name)
    (visited : List String) (levels : Nat) :
    ∃ expanded, catalog.expandType name visited levels = .ok expanded := by
  induction levels using Nat.strongRecOn generalizing name visited with
  | ind levels ih =>
      obtain ⟨fields, available, leads⟩ := closed.exists_typeFields known
      rw [expandType_eq, available]
      refine exists_expandEach fun field member => ?_
      refine exists_expandField (leads field member) fun inner fewer next found => ?_
      exact ih fewer (by omega) found (inner :: visited)

theorem Closed.exists_seededField (closed : catalog.Closed) (leads : catalog.Leads field)
    (visited : List String) : ∃ seeded, catalog.seededField field visited = .ok seeded := by
  obtain ⟨name, named, known⟩ := leads.exists_namedTypeFor
  cases composite : field.typeRef.isComposite with
  | false => exact ⟨_, seededField_of_leaf named composite⟩
  | true =>
      obtain ⟨subFields, inner⟩ := closed.exists_expandType known visited (catalog.maxDepth - 1)
      rw [seededField_of_composite named composite, inner]
      exact ⟨_, rfl⟩

theorem Closed.exists_selectFields (closed : catalog.Closed) (resource : Resource)
    (leads : ∀ field ∈ fields, catalog.Leads field) (names : List String) :
    ∃ selected, resource.selectFields catalog fields names = .ok selected := by
  induction names with
  | nil => exact ⟨[], rfl⟩
  | cons name rest ih =>
      obtain ⟨others, later⟩ := ih
      cases found : findMeta? fields name with
      | none =>
          rw [Resource.selectFields, found]
          exact ⟨others, later⟩
      | some field =>
          have member := List.mem_of_find?_eq_some found
          obtain ⟨seeded, first⟩ := closed.exists_seededField (leads field member)
            (resource.name :: field.typeRef.namedType?.toList)
          rw [Resource.selectFields, found]
          simp only [first, later]
          exact ⟨_, rfl⟩

end Expanding

section Queries

/-- The type of a connection's nodes is known like any other. -/
theorem Closed.knows_of_nodeType? (closed : catalog.Closed)
    (node : catalog.nodeType? fields = some name) : catalog.Knows name := by
  simp only [nodeType?, knownFields?, Option.bind_eq_bind, Option.bind_eq_some_iff,
    Option.map_eq_some_iff] at node
  obtain ⟨-, -, edgeType, -, _, ⟨type, there, rfl⟩, nodeField, found, node⟩ := node
  obtain ⟨inner, given, known⟩ :=
    closed edgeType type there nodeField (List.mem_of_find?_eq_some found)
  obtain rfl := Option.some.inj (given.symm.trans node)
  exact known

/-- The records of a query are of a known type, whether or not a connection leads to it. -/
theorem Closed.exists_queryRecordType (closed : catalog.Closed) (served : catalog.Serves query) :
    ∃ recordType, catalog.queryRecordType query = .ok recordType ∧ catalog.Knows recordType := by
  obtain ⟨root, there, field, member, named⟩ := served
  cases found : findMeta? (root.fields.getD []) query with
  | none => exact absurd named (by simpa using List.find?_eq_none.mp found field member)
  | some first =>
      have leads := closed _ root there first (List.mem_of_find?_eq_some found)
      obtain ⟨typeName, named, known⟩ := leads.exists_namedTypeFor
      refine ⟨((catalog.knownFields? typeName).bind catalog.nodeType?).getD typeName, ?_, ?_⟩
      · rw [queryRecordType, typeFields_of_type? there]
        simp only [bind, Except.bind, found, named]
        rfl
      · cases node : (catalog.knownFields? typeName).bind catalog.nodeType? with
        | none => exact known
        | some nodeType =>
            obtain ⟨fields, -, node⟩ := Option.bind_eq_some_iff.mp node
            exact closed.knows_of_nodeType? node

theorem queryRecordType_of_not_serves (root : catalog.Knows catalog.queryType)
    (unserved : ¬ catalog.Serves query) :
    catalog.queryRecordType query = .error (.unknownQuery query) := by
  obtain ⟨type, there⟩ := exists_type? root
  have absent : findMeta? (type.fields.getD []) query = none := by
    refine List.find?_eq_none.mpr fun field member => ?_
    have differ : field.name ≠ query := fun same => unserved ⟨type, there, field, member, same⟩
    simpa using differ
  rw [queryRecordType, typeFields_of_type? there]
  simp only [bind, Except.bind, absent]

theorem Closed.answersServed_queryRecordType (closed : catalog.Closed)
    (root : catalog.Knows catalog.queryType) (query : String) :
    catalog.AnswersServed query (catalog.queryRecordType query) := by
  by_cases served : catalog.Serves query
  · obtain ⟨recordType, given, -⟩ := closed.exists_queryRecordType served
    rw [given]
    exact ⟨⟨fun _ => served, fun _ => ⟨recordType, rfl⟩⟩, nofun⟩
  · rw [queryRecordType_of_not_serves root served]
    refine ⟨⟨nofun, fun also => absurd also served⟩, fun error failed => ?_⟩
    exact (Except.error.inj failed).symm

theorem Closed.knows_of_queryRecordType (closed : catalog.Closed)
    (root : catalog.Knows catalog.queryType) (given : catalog.queryRecordType query = .ok name) :
    catalog.Knows name := by
  have served := (closed.answersServed_queryRecordType root query).answered_iff.mp ⟨name, given⟩
  obtain ⟨recordType, also, known⟩ := closed.exists_queryRecordType served
  obtain rfl := Except.ok.inj (also.symm.trans given)
  exact known

theorem Closed.answersServed_metaFields (closed : catalog.Closed)
    (root : catalog.Knows catalog.queryType) (query : String) :
    catalog.AnswersServed query (catalog.metaFields query) := by
  refine (closed.answersServed_queryRecordType root query).bind fun recordType given => ?_
  obtain ⟨fields, available, -⟩ :=
    closed.exists_typeFields (closed.knows_of_queryRecordType root given)
  rw [available]
  exact ⟨_, rfl⟩

/-- With all types known, the records of a query, their fields and any selection of them fail
only if the root type has no such query. -/
theorem only_unserved_queries_fail {catalog : Catalog}
    (root : catalog.Knows catalog.queryType) (closed : catalog.Closed) (query : String) :
    catalog.AnswersServed query (catalog.getFields query) ∧
    catalog.AnswersServed query (catalog.metaFields query) ∧
    ∀ (resource : Resource) names, resource.queryName.getD "" = query →
      catalog.AnswersServed query (resource.sourceFields catalog names) := by
  refine ⟨?_, closed.answersServed_metaFields root query, ?_⟩
  · refine (closed.answersServed_queryRecordType root query).bind fun recordType given => ?_
    exact closed.exists_expandType (closed.knows_of_queryRecordType root given) _ _
  · rintro resource names rfl
    refine (closed.answersServed_metaFields root _).bind fun ⟨recordType, available⟩ given => ?_
    obtain ⟨served, known⟩ := of_metaFields given
    obtain ⟨fields, also, leads⟩ :=
      closed.exists_typeFields (closed.knows_of_queryRecordType root served)
    obtain rfl := Except.ok.inj (also.symm.trans known)
    exact closed.exists_selectFields resource leads names

/-- Teams that have each other as partners, through a connection that comes back to its own
type, and a connection without edges that have nodes. -/
def partners : Catalog where
  queryType := "Query"
  types :=
    [⟨"Query", .object, some [⟨"allTeams", ⟨.list, none, some (recordRef "Team")⟩⟩,
        ⟨"teams", recordRef "TeamConnection"⟩, ⟨"loose", recordRef "Loose"⟩]⟩,
      ⟨"TeamConnection", .object, some [⟨"edges", ⟨.list, none, some (recordRef "TeamEdge")⟩⟩]⟩,
      ⟨"TeamEdge", .object, some [⟨"node", ⟨.nonNull, none, some (recordRef "Team")⟩⟩]⟩,
      ⟨"Loose", .object, some [⟨"edges", recordRef "Team"⟩]⟩,
      ⟨"Team", .object, some [⟨"name", textRef⟩, ⟨"parent", recordRef "Team"⟩,
        ⟨"partners", recordRef "TeamConnection"⟩]⟩,
      ⟨"String", .scalar, none⟩]
  maxDepth := 3

/-- Queries of all three kinds are answered, and one that there is not is refused. -/
theorem partners_queries_answered :
    partners.Knows partners.queryType ∧ partners.Closed ∧
    (∃ fields, partners.getFields "allTeams" = .ok fields) ∧
    (∃ fields, partners.getFields "teams" = .ok fields) ∧
    (∃ record, partners.metaFields "loose" = .ok record) ∧
    (∀ names, ∃ fields,
      (Resource.mk "r1" "Team" (some "teams")).sourceFields partners names = .ok fields) ∧
    partners.getFields "ghosts" = .error (.unknownQuery "ghosts") := by
  have root : partners.Knows partners.queryType := by decide
  have closed : partners.Closed := closed_of_types (by decide)
  have answers := only_unserved_queries_fail root closed
  refine ⟨root, closed, (answers "allTeams").1.answered_iff.mpr (by decide),
    (answers "teams").1.answered_iff.mpr (by decide),
    (answers "loose").2.1.answered_iff.mpr (by decide), fun names => ?_,
    (answers "ghosts").1.eq_error (by decide)⟩
  exact ((answers "teams").2.2 _ names rfl).answered_iff.mpr (by decide)

end Queries

end Aggregation.Catalog

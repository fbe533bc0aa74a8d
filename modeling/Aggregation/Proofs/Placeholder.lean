import Aggregation.Placeholder
import Aggregation.Request
import Aggregation.Proofs.Grid.Operation
import Aggregation.Proofs.Json.Strings
import Aggregation.Proofs.Text.Trimming

namespace Aggregation

/-! What a dashboard is asked for.

Placeholders are the only way from a dashboard into a request: dashboards that agree on the
paths of a query's placeholders give the same request.  A filter's strings are replaced by
what the dashboard holds for them and by nothing else, so that a second replacement finds
only what the first one has brought in.
-/

namespace Placeholder

/-- Whether a tree has a placeholder of a path among its strings. -/
def OccursIn (path : String) (tree : Json) : Prop :=
  ∃ text, tree.HasString text ∧ path? text = some path

theorem OccursIn.mono {path : String} {part tree : Json} (occurs : OccursIn path part)
    (within : ∀ text, part.HasString text → tree.HasString text) : OccursIn path tree := by
  obtain ⟨text, inside, named⟩ := occurs
  exact ⟨text, within text inside, named⟩

theorem path?_trim (text : String) : path? (Text.trim text) = path? text := by
  rw [path?, path?, pathChars?, pathChars?, Text.toList_trim, Text.trimChars_trimChars]

end Placeholder

theorem Text.split_ne_nil (separator : Char) (text : String) : split separator text ≠ [] := by
  rw [split, Ne, List.map_eq_nil_iff]
  cases text.toList with
  | nil => exact List.cons_ne_nil _ _
  | cons c rest =>
      rw [splitChars]
      split
      · exact List.cons_ne_nil _ _
      · split <;> exact List.cons_ne_nil _ _

namespace Dashboard

variable {dashboard other filter : Json} {text : String}

section Substitution

/-- A string stays as it is, or is a placeholder for a value that is there. -/
theorem substitute_cases (dashboard : Json) (text : String) :
    substitute dashboard text = .string text ∨
      ∃ path, Placeholder.path? text = some path ∧
        lookup? dashboard path = some (substitute dashboard text) := by
  rw [substitute]
  cases named : Placeholder.path? text with
  | none => exact .inl rfl
  | some path =>
      cases found : lookup? dashboard path with
      | none => exact .inl (by rw [Option.bind_some, found, Option.getD_none])
      | some value => exact .inr ⟨path, rfl, by rw [Option.bind_some, found, Option.getD_some]⟩

theorem substitute_of_plain (plain : Placeholder.path? text = none) :
    substitute dashboard text = .string text := by
  rw [substitute, plain]
  rfl

theorem lookup?_null (path : String) : lookup? .null path = none := by
  obtain ⟨segment, rest, pieces⟩ := List.exists_cons_of_ne_nil (Text.split_ne_nil '.' path)
  rw [lookup?, pieces]
  rfl

theorem substitute_null (text : String) : substitute .null text = .string text := by
  rcases substitute_cases .null text with same | ⟨path, -, found⟩
  · exact same
  · rw [lookup?_null] at found
    contradiction

end Substitution

section Injection

theorem injectAll_eq_map (items : List Json) :
    injectAll dashboard items = items.map (inject dashboard) := by
  induction items with
  | nil => rfl
  | cons item rest ih => rw [injectAll, ih, List.map_cons]

theorem injectEntries_eq_map (entries : List (String × Json)) :
    injectEntries dashboard entries =
      entries.map fun entry => (entry.1, inject dashboard entry.2) := by
  induction entries with
  | nil => rfl
  | cons entry rest ih => rw [injectEntries, ih, List.map_cons]

/-- What becomes of a filter is up to what becomes of its strings. -/
theorem inject_congr
    (agree : ∀ text, filter.HasString text → substitute dashboard text = substitute other text) :
    inject dashboard filter = inject other filter := by
  induction filter using Json.induction with
  | null | bool | number | unreadable => rfl
  | string text => exact agree text .here
  | array items ih =>
      rw [inject, inject, injectAll_eq_map, injectAll_eq_map]
      refine congrArg Json.array (List.map_congr_left fun item member => ?_)
      exact ih item member fun text inside => agree text (.item member inside)
  | object entries ih =>
      rw [inject, inject, injectEntries_eq_map, injectEntries_eq_map]
      refine congrArg Json.object (List.map_congr_left fun entry member => ?_)
      rw [ih entry member fun text inside => agree text (.entry member inside)]

/-- The empty dashboard changes nothing. -/
theorem inject_null (filter : Json) : inject .null filter = filter := by
  induction filter using Json.induction with
  | null | bool | number | unreadable => rfl
  | string text => exact substitute_null text
  | array items ih =>
      rw [inject, injectAll_eq_map]
      exact congrArg Json.array ((List.map_congr_left ih).trans (List.map_id' items))
  | object entries ih =>
      rw [inject, injectEntries_eq_map]
      refine congrArg Json.object ((List.map_congr_left fun entry member => ?_).trans
        (List.map_id' entries))
      rw [ih entry member]

/-- Strings that stay as they are leave the filter as it is. -/
theorem inject_eq_self
    (kept : ∀ text, filter.HasString text → substitute dashboard text = .string text) :
    inject dashboard filter = filter := by
  refine (inject_congr fun text inside => ?_).trans (inject_null filter)
  rw [kept text inside, substitute_null]

/-- A string of what becomes of a filter is one of the filter's that stays, or one of a
value that the dashboard holds for a placeholder of the filter. -/
theorem hasString_inject (inside : (inject dashboard filter).HasString text) :
    filter.HasString text ∧ substitute dashboard text = .string text ∨
      ∃ path value, Placeholder.OccursIn path filter ∧ lookup? dashboard path = some value ∧
        value.HasString text := by
  induction filter using Json.induction with
  | null | bool | number | unreadable => cases inside
  | string written =>
      rw [inject] at inside
      rcases substitute_cases dashboard written with same | ⟨path, named, found⟩
      · rw [same, Json.hasString_string_iff] at inside
        subst inside
        exact .inl ⟨.here, same⟩
      · exact .inr ⟨path, _, ⟨written, .here, named⟩, found, inside⟩
  | array items ih =>
      simp only [inject, injectAll_eq_map, Json.hasString_array_iff, List.mem_map,
        exists_exists_and_eq_and] at inside
      obtain ⟨item, member, inside⟩ := inside
      rcases ih item member inside with ⟨there, same⟩ | ⟨path, value, occurs, found⟩
      · exact .inl ⟨.item member there, same⟩
      · exact .inr ⟨path, value, occurs.mono fun _ => .item member, found⟩
  | object entries ih =>
      simp only [inject, injectEntries_eq_map, Json.hasString_object_iff, List.mem_map,
        exists_exists_and_eq_and] at inside
      obtain ⟨entry, member, inside⟩ := inside
      rcases ih entry member inside with ⟨there, same⟩ | ⟨path, value, occurs, found⟩
      · exact .inl ⟨.entry member there, same⟩
      · exact .inr ⟨path, value, occurs.mono fun _ => .entry member, found⟩

/-- Values that bring in no placeholders leave nothing to be done. -/
theorem inject_inject
    (plain : ∀ path value text, Placeholder.OccursIn path filter →
      lookup? dashboard path = some value → value.HasString text →
        Placeholder.path? text = none) :
    inject dashboard (inject dashboard filter) = inject dashboard filter := by
  refine inject_eq_self fun text inside => ?_
  rcases hasString_inject inside with ⟨-, same⟩ | ⟨path, value, occurs, found, brought⟩
  · exact same
  · exact substitute_of_plain (plain path value text occurs found brought)

end Injection

end Dashboard

section Requests

variable {dashboard other : Json} {raw : String} {query : GridQuery}

/-- Whether a path is that of a placeholder of a query, in its filters or as its point in
time. -/
def GridQuery.RefersTo (query : GridQuery) (path : String) : Prop :=
  (∃ filters, query.contextFilters = some filters ∧ Placeholder.OccursIn path filters) ∨
    ∃ raw, query.asOf = some raw ∧ Placeholder.path? raw = some path

theorem Dashboard.substitute_congr {text : String}
    (agree : ∀ path, Placeholder.path? text = some path →
      lookup? dashboard path = lookup? other path) :
    substitute dashboard text = substitute other text := by
  rw [substitute, substitute]
  cases named : Placeholder.path? text with
  | none => rfl
  | some path => rw [Option.bind_some, Option.bind_some, agree path named]

theorem AsOf.resolve?_congr
    (agree : ∀ path, Placeholder.path? raw = some path →
      Dashboard.lookup? dashboard path = Dashboard.lookup? other path) :
    resolve? raw dashboard = resolve? raw other := by
  have literal : literal? raw dashboard = literal? raw other := by
    simp only [literal?, Placeholder.path?_trim]
    cases named : Placeholder.path? raw with
    | none => rfl
    | some path => simp only [agree path named]
  rw [resolve?, resolve?, literal]

namespace AggregationRequest

theorem assemble_congr (spec : AggregationSpec)
    (agree : ∀ path, query.RefersTo path →
      Dashboard.lookup? dashboard path = Dashboard.lookup? other path) :
    assemble spec dashboard query = assemble spec other query := by
  have filters : query.contextFilters.map (Dashboard.inject dashboard) =
      query.contextFilters.map (Dashboard.inject other) := by
    refine Option.map_congr fun filters given => ?_
    refine Dashboard.inject_congr fun text inside => Dashboard.substitute_congr ?_
    exact fun path named => agree path (.inl ⟨filters, given, text, inside, named⟩)
  have pointInTime : (query.asOf.bind fun raw => AsOf.resolve? raw dashboard) =
      query.asOf.bind fun raw => AsOf.resolve? raw other := by
    refine Option.bind_congr fun raw given => ?_
    exact AsOf.resolve?_congr fun path named => agree path (.inr ⟨raw, given, named⟩)
  rw [assemble, assemble, filters, pointInTime]

theorem build_congr (spec : AggregationSpec) (outputFields : List Field)
    (agree : ∀ path, query.RefersTo path →
      Dashboard.lookup? dashboard path = Dashboard.lookup? other path) :
    build spec outputFields dashboard query = build spec outputFields other query := by
  rw [build, build, assemble_congr spec agree]

theorem contextFilters_of_null {spec : AggregationSpec} {outputFields : List Field}
    {request : AggregationRequest}
    (built : build spec outputFields .null query = .ok request) :
    request.contextFilters = query.contextFilters := by
  obtain ⟨-, -, rfl⟩ := build_eq_ok_iff.mp built
  exact (Option.map_congr fun filters _ => Dashboard.inject_null filters).trans Option.map_id'

/-- A dashboard is read at the paths of a query's placeholders only, an empty one changes no
filter, and a filter into which no placeholders are brought is filled at once. -/
theorem requests_read_placeholders :
    (∀ (spec : AggregationSpec) (outputFields : List Field) (query : GridQuery)
      (dashboard other : Json),
      (∀ path, query.RefersTo path →
        Dashboard.lookup? dashboard path = Dashboard.lookup? other path) →
      build spec outputFields dashboard query = build spec outputFields other query) ∧
    (∀ (spec : AggregationSpec) (outputFields : List Field) (query : GridQuery)
      (request : AggregationRequest),
      build spec outputFields .null query = .ok request →
      request.contextFilters = query.contextFilters) ∧
    ∀ dashboard filter : Json,
      (∀ path value text, Placeholder.OccursIn path filter →
        Dashboard.lookup? dashboard path = some value → value.HasString text →
        Placeholder.path? text = none) →
      Dashboard.inject dashboard (Dashboard.inject dashboard filter) =
        Dashboard.inject dashboard filter := by
  refine ⟨fun spec outputFields query dashboard other agree => ?_,
    fun spec outputFields query request built => ?_, fun dashboard filter plain => ?_⟩
  · exact build_congr spec outputFields agree
  · exact contextFilters_of_null built
  · exact Dashboard.inject_inject plain

/-- Incidents of the region that a dashboard has selected. -/
def regionFilter : Json :=
  .object [("field", .string "region"), ("value", .string "\x7b\x7bfilter.region\x7d\x7d")]

/-- The first incidents of a region, as they were at the selected snapshot. -/
def regionQuery : GridQuery :=
  { pageSize := 10, contextFilters := some regionFilter,
    asOf := some " \x7b\x7b filter.snapshots.1 \x7d\x7d" }

def emea : Json :=
  .object [("region", .string "emea"), ("snapshots", .array [.null, .string "v7"])]

/-- The same selection made by a user. -/
def emeaOfUser : Json :=
  .object [("snapshots", .array [.string "v6", .string "v7"]), ("region", .string "emea"),
    ("user", .string "\x7b\x7bfilter.region\x7d\x7d")]

theorem occursIn_regionFilter {path : String} (occurs : Placeholder.OccursIn path regionFilter) :
    path = "region" := by
  obtain ⟨text, inside, named⟩ := occurs
  have plain : Placeholder.path? "region" = none := by decide +kernel
  have placeholder : Placeholder.path? "\x7b\x7bfilter.region\x7d\x7d" = some "region" := by
    decide +kernel
  simp only [regionFilter, Json.hasString_object_iff, List.mem_cons, List.not_mem_nil, or_false,
    exists_eq_or_imp, exists_eq_left, Json.hasString_string_iff] at inside
  rcases inside with rfl | rfl
  · rw [plain] at named
    contradiction
  · exact Option.some.inj (named.symm.trans placeholder)

/-- What is not at the paths of its placeholders makes no difference to a request. -/
theorem regionQuery_reads_region :
    (∀ path, regionQuery.RefersTo path →
      Dashboard.lookup? emea path = Dashboard.lookup? emeaOfUser path) ∧
    build {} [] emea regionQuery = build {} [] emeaOfUser regionQuery ∧
    (∃ request, build {} [] .null regionQuery = .ok request ∧
      request.contextFilters = some regionFilter) ∧
    Dashboard.inject emea (Dashboard.inject emea regionFilter) =
      Dashboard.inject emea regionFilter := by
  obtain ⟨unread, unfilled, once⟩ := requests_read_placeholders
  have region : Text.split '.' "region" = ["region"] := by decide +kernel
  have snapshot : Text.split '.' "snapshots.1" = ["snapshots", "1"] := by decide +kernel
  have held : Dashboard.lookup? emea "region" = some (.string "emea") := by
    rw [Dashboard.lookup?, region]
    rfl
  have agree : ∀ path, regionQuery.RefersTo path →
      Dashboard.lookup? emea path = Dashboard.lookup? emeaOfUser path := by
    rintro path (⟨filters, given, occurs⟩ | ⟨raw, given, named⟩)
    · obtain rfl := Option.some.inj given
      obtain rfl := occursIn_regionFilter occurs
      rw [held, Dashboard.lookup?, region]
      rfl
    · obtain rfl := Option.some.inj given
      have placeholder : Placeholder.path? " \x7b\x7b filter.snapshots.1 \x7d\x7d" =
          some "snapshots.1" := by decide +kernel
      obtain rfl := Option.some.inj (named.symm.trans placeholder)
      rw [Dashboard.lookup?, Dashboard.lookup?, snapshot]
      rfl
  have built : build {} [] .null regionQuery = .ok (assemble {} .null regionQuery) := rfl
  refine ⟨agree, unread {} [] regionQuery emea emeaOfUser agree,
    ⟨_, built, unfilled {} [] regionQuery _ built⟩, once emea regionFilter ?_⟩
  intro path value text occurs found inside
  obtain rfl := occursIn_regionFilter occurs
  obtain rfl := Option.some.inj (held.symm.trans found)
  rw [Json.hasString_string_iff] at inside
  rw [inside]
  decide +kernel

end AggregationRequest

end Requests

end Aggregation

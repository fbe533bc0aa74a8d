import Aggregation.Proofs.Catalog.Course

namespace Aggregation

/-! How deep expansion goes.

On every way down through expanded fields, a composite one takes a level that only the
depth of the catalog gives, and adds its type to those that are left out below it.  A field
that is selected for a resource takes the first level whatever its type is, but that type
and the resource's are left out below it.
-/

/-- A way down through a forest, which may end anywhere. -/
inductive Way {α : Type} (children : α → List α) : List α → List α → Prop where
  | stop {forest : List α} {node : α} : node ∈ forest → Way children forest [node]
  | down {forest way : List α} {node : α} :
      node ∈ forest → Way children (children node) way → Way children forest (node :: way)

theorem Way.not_nil {α : Type} {children : α → List α} {way : List α} :
    ¬ Way children [] way := by
  intro passes
  cases passes with
  | stop member | down member => contradiction

namespace MetaField

theorem children_leaf (field : MetaField) (typeName : String) :
    (field.leaf typeName).children = [] := by
  unfold leaf
  split <;> rfl

theorem children_composite (field : MetaField) (typeName : String) (subFields : List Field) :
    (field.composite typeName subFields).children = subFields := by
  unfold composite
  split <;> rfl

theorem typeName_composite (field : MetaField) (typeName : String) (subFields : List Field) :
    (field.composite typeName subFields).typeName = typeName := by
  unfold composite
  split <;> rfl

end MetaField

namespace Origin

/-- The types of the composite fields on a way. -/
def compositeTypes (way : List Origin) : List String :=
  (way.filter (·.source.typeRef.isComposite)).map (·.field.typeName)

/-- Whether the composite fields on a way are at most so many, all of different types and
of none that is barred. -/
structure Bounded (limit : Nat) (barred : List String) (way : List Origin) : Prop where
  short : (compositeTypes way).length ≤ limit
  distinct : (compositeTypes way).Nodup
  fresh : ∀ name ∈ compositeTypes way, name ∉ barred

/-- Whether all ways through some origins are bounded, and are all the ways down through
their fields. -/
structure AllBounded (limit : Nat) (barred : List String) (origins : List Origin) : Prop where
  bounded : ∀ way, Way Origin.inner origins way → Bounded limit barred way
  complete : ∀ chain, Way Field.children (fields origins) chain →
    ∃ way, Way Origin.inner origins way ∧ chain = fields way

variable {origin : Origin} {limit : Nat} {barred : List String} {way : List Origin}

theorem bounded_nil : Bounded limit barred [] where
  short := Nat.zero_le limit
  distinct := List.nodup_nil
  fresh _ member := (List.not_mem_nil member).elim

theorem compositeTypes_cons (origin : Origin) (way : List Origin) :
    compositeTypes (origin :: way) =
      if origin.source.typeRef.isComposite then origin.field.typeName :: compositeTypes way
      else compositeTypes way := by
  rw [compositeTypes, List.filter_cons]
  split <;> rfl

theorem Bounded.leaf (bounded : Bounded limit barred way)
    (leaf : origin.source.typeRef.isComposite = false) : Bounded limit barred (origin :: way) := by
  have same : compositeTypes (origin :: way) = compositeTypes way := by
    rw [compositeTypes_cons, leaf, if_neg Bool.false_ne_true]
  exact ⟨same ▸ bounded.short, same ▸ bounded.distinct, same ▸ bounded.fresh⟩

theorem Bounded.unbar {fewer : List String} (bounded : Bounded limit barred way)
    (subset : ∀ name ∈ fewer, name ∈ barred) : Bounded limit fewer way where
  short := bounded.short
  distinct := bounded.distinct
  fresh name member inside := bounded.fresh name member (subset name inside)

/-- Above a way that avoids its type, a composite field takes one level. -/
theorem Bounded.composite (bounded : Bounded limit (origin.field.typeName :: barred) way)
    (composite : origin.source.typeRef.isComposite = true)
    (fresh : origin.field.typeName ∉ barred) : Bounded (limit + 1) barred (origin :: way) := by
  have types : compositeTypes (origin :: way) = origin.field.typeName :: compositeTypes way := by
    rw [compositeTypes_cons, if_pos composite]
  have unrepeated : origin.field.typeName ∉ compositeTypes way :=
    fun member => bounded.fresh _ member List.mem_cons_self
  refine ⟨?_, ?_, ?_⟩
  · rw [types, List.length_cons]
    exact Nat.succ_le_succ bounded.short
  · rw [types]
    exact List.nodup_cons.mpr ⟨unrepeated, bounded.distinct⟩
  · rw [types]
    intro name member
    rcases List.mem_cons.mp member with rfl | later
    · exact fresh
    · exact fun barred => bounded.fresh name later (List.mem_cons_of_mem _ barred)

/-- A field at the top counts by itself, so there is one level at least. -/
theorem Bounded.top {depth : Nat} (below : Bounded (depth - 1) barred way)
    (own : origin.field.typeName ∈ barred) : Bounded (max 1 depth) [] (origin :: way) := by
  cases composite : origin.source.typeRef.isComposite with
  | false =>
      have free : Bounded (depth - 1) [] way := below.unbar nofun
      have whole := free.leaf composite
      exact ⟨Nat.le_trans whole.short (by omega), whole.distinct, whole.fresh⟩
  | true =>
      have free : Bounded (depth - 1) [origin.field.typeName] way := by
        refine below.unbar fun name member => ?_
        obtain rfl := List.mem_singleton.mp member
        exact own
      have levels : max 1 depth = depth - 1 + 1 := by omega
      rw [levels]
      exact free.composite composite List.not_mem_nil

end Origin

namespace Catalog

variable {catalog : Catalog} {fields : List MetaField} {visited : List String} {depth : Nat}
  {answer : Except SchemaError (List Origin)} {origins : List Origin}

/-- What an expansion leaves of a field `depth` levels down, below some visited types. -/
inductive Grows (catalog : Catalog) : List String → Nat → Origin → Prop where
  | leaf {visited : List String} {depth : Nat} {field : MetaField} {name : String} :
      field.typeRef.isComposite = false →
      Grows catalog visited depth ⟨field, field.leaf name, []⟩
  | nested {visited : List String} {depth : Nat} {field : MetaField} {name : String}
      {below : List Origin} :
      field.typeRef.isComposite = true → name ∉ visited → depth < catalog.maxDepth →
      (∀ origin ∈ below, Grows catalog (name :: visited) (depth + 1) origin) →
      Grows catalog visited depth ⟨field, field.composite name (Origin.fields below), below⟩

theorem Expands.grows (expands : catalog.Expands fields visited depth answer) :
    ∀ origins, answer = .ok origins → ∀ origin ∈ origins, catalog.Grows visited depth origin := by
  induction expands with
  | nil =>
      intro origins given origin member
      cases given
      contradiction
  | unnamed | unknown | failed =>
      intro origins given
      contradiction
  | @leaf _ _ _ _ _ answer _ leaf _ later =>
      intro origins given origin member
      cases answer with
      | error error => contradiction
      | ok tail =>
          cases given
          rcases List.mem_cons.mp member with rfl | member
          · exact .leaf leaf
          · exact later tail rfl origin member
  | leftOut _ _ _ _ later => exact later
  | @nested _ _ _ _ _ _ below answer _ composite fresh shallow _ _ _ inner later =>
      intro origins given origin member
      cases answer with
      | error error => contradiction
      | ok tail =>
          cases given
          rcases List.mem_cons.mp member with rfl | member
          · exact .nested composite fresh shallow (inner below rfl)
          · exact later tail rfl origin member

/-- A field that is expanded uses one level and its type, from what is left above it. -/
theorem bounded_cons_composite {field : MetaField} {name : String} {below way : List Origin}
    (bounded : Origin.Bounded (catalog.maxDepth - (depth + 1)) (name :: visited) way)
    (composite : field.typeRef.isComposite = true) (fresh : name ∉ visited)
    (shallow : depth < catalog.maxDepth) :
    Origin.Bounded (catalog.maxDepth - depth) visited
      (⟨field, field.composite name (Origin.fields below), below⟩ :: way) := by
  have levels : catalog.maxDepth - depth = catalog.maxDepth - (depth + 1) + 1 := by omega
  rw [← field.typeName_composite name (Origin.fields below)] at bounded fresh
  rw [levels]
  exact bounded.composite composite fresh

/-- Every way down through what has grown stays within what the guards leave. -/
theorem Grows.bounded (grown : ∀ origin ∈ origins, catalog.Grows visited depth origin)
    {way : List Origin} (passes : Way Origin.inner origins way) :
    Origin.Bounded (catalog.maxDepth - depth) visited way := by
  -- Along the way: each composite field moves its type to the visited ones.
  induction passes generalizing visited depth with
  | stop member =>
      cases grown _ member with
      | leaf leaf => exact Origin.bounded_nil.leaf leaf
      | nested composite fresh shallow _ =>
          exact bounded_cons_composite Origin.bounded_nil composite fresh shallow
  | down member lower ih =>
      cases grown _ member with
      | leaf leaf => exact (Way.not_nil lower).elim
      | nested composite fresh shallow inner =>
          exact bounded_cons_composite (ih inner) composite fresh shallow

/-- Every way down through the fields is one through what they come from. -/
theorem Grows.lifts (grown : ∀ origin ∈ origins, catalog.Grows visited depth origin)
    {chain : List Field} (passes : Way Field.children (Origin.fields origins) chain) :
    ∃ way, Way Origin.inner origins way ∧ chain = Origin.fields way := by
  generalize same : Origin.fields origins = forest at passes
  induction passes generalizing origins visited depth with
  | stop member =>
      subst same
      obtain ⟨origin, there, rfl⟩ := List.mem_map.mp member
      exact ⟨[origin], .stop there, rfl⟩
  | down member lower ih =>
      subst same
      obtain ⟨origin, there, rfl⟩ := List.mem_map.mp member
      cases grown _ there with
      | @leaf _ _ field name =>
          change Way Field.children (field.leaf name).children _ at lower
          rw [field.children_leaf] at lower
          exact (Way.not_nil lower).elim
      | @nested _ _ field name below _ _ _ inner =>
          obtain ⟨way, passes, rfl⟩ := ih inner (field.children_composite name _).symm
          exact ⟨_, .down there passes, rfl⟩

theorem ExpandsType.grows {typeName : String}
    (expands : catalog.ExpandsType typeName visited depth (.ok origins)) :
    ∀ origin ∈ origins, catalog.Grows visited depth origin := by
  cases expands with
  | known _ expands => exact expands.grows origins rfl

variable {resource : Resource} {selected : MetaField} {names : List String}
  {result : List Field}

/-- Below a selected field neither the resource's type nor its own occurs again. -/
theorem Seeds.inner_bounded {top : Origin} {way : List Origin}
    (seeds : catalog.Seeds resource selected top) (passes : Way Origin.inner top.inner way) :
    Origin.Bounded (catalog.maxDepth - 1) [resource.name, top.field.typeName] way := by
  cases seeds with
  | leaf => exact (Way.not_nil passes).elim
  | composite _ _ expands =>
      rw [selected.typeName_composite]
      exact Grows.bounded expands.grows passes

theorem Seeds.lifts {top : Origin} {chain : List Field}
    (seeds : catalog.Seeds resource selected top)
    (passes : Way Field.children top.field.children chain) :
    ∃ way, Way Origin.inner top.inner way ∧ chain = Origin.fields way := by
  cases seeds with
  | leaf =>
      rw [selected.children_leaf] at passes
      exact (Way.not_nil passes).elim
  | composite _ _ expands =>
      rw [selected.children_composite] at passes
      exact Grows.lifts expands.grows passes

theorem Seeds.exists_of_mem {selection : List MetaField} {top : Origin}
    (seeds : List.Forall₂ (catalog.Seeds resource) selection origins) (member : top ∈ origins) :
    ∃ selected, catalog.Seeds resource selected top := by
  induction seeds with
  | nil => contradiction
  | cons first _ later =>
      rcases List.mem_cons.mp member with rfl | member
      · exact ⟨_, first⟩
      · exact later member

theorem Seeds.allBounded
    (seeded : ∀ top ∈ origins, ∃ selected, catalog.Seeds resource selected top) :
    Origin.AllBounded (max 1 catalog.maxDepth) [] origins where
  bounded way passes := by
    cases passes with
    | @stop _ top => exact Origin.bounded_nil.top (List.mem_singleton_self top.field.typeName)
    | down member lower =>
        obtain ⟨selected, seeds⟩ := seeded _ member
        exact (seeds.inner_bounded lower).top (List.mem_cons_of_mem _ (List.mem_singleton_self _))
  complete chain passes := by
    cases passes with
    | stop member =>
        obtain ⟨top, there, rfl⟩ := List.mem_map.mp member
        exact ⟨[top], .stop there, rfl⟩
    | down member lower =>
        obtain ⟨top, there, rfl⟩ := List.mem_map.mp member
        obtain ⟨selected, seeds⟩ := seeded top there
        obtain ⟨way, below, rfl⟩ := seeds.lifts lower
        exact ⟨top :: way, .down there below, rfl⟩

/-- Whether a result is what a course over a type ends with, and within what the guards
allow. -/
def Settles (catalog : Catalog) (typeName : String) (visited : List String)
    (result : Except SchemaError (List Field)) : Prop :=
  ∃ answer, catalog.ExpandsType typeName visited 0 answer ∧ result = answer.map Origin.fields ∧
    ∀ origins, answer = .ok origins → Origin.AllBounded catalog.maxDepth visited origins

theorem settles_expandType (catalog : Catalog) (typeName : String) (visited : List String) :
    catalog.Settles typeName visited (catalog.expandType typeName visited catalog.maxDepth) := by
  obtain ⟨answer, expands, computed⟩ := catalog.exists_expandsType typeName visited 0
  refine ⟨answer, expands, computed, ?_⟩
  rintro origins rfl
  exact ⟨fun _ passes => Grows.bounded expands.grows passes,
    fun _ passes => Grows.lifts expands.grows passes⟩

theorem sourceFields_bounded (chosen : resource.sourceFields catalog names = .ok result) :
    ∃ recordType available origins,
      catalog.metaFields (resource.queryName.getD "") = .ok (recordType, available) ∧
      List.Forall₂ (catalog.Seeds resource) (names.filterMap (findMeta? available)) origins ∧
      result = Origin.fields origins ∧ Origin.AllBounded (max 1 catalog.maxDepth) [] origins ∧
      ∀ top below, Way Origin.inner origins (top :: below) →
        ∀ name ∈ Origin.compositeTypes below,
          name ≠ resource.name ∧ name ≠ top.field.typeName := by
  obtain ⟨⟨recordType, available⟩, served, chosen⟩ := exists_of_bind_eq_ok chosen
  obtain ⟨origins, seeds, rfl⟩ := exists_seeds_of_selectFields chosen
  have seeded (top : Origin) (member : top ∈ origins) := Seeds.exists_of_mem seeds member
  refine ⟨recordType, available, origins, served, seeds, rfl, Seeds.allBounded seeded, ?_⟩
  intro top below passes name inside
  cases passes with
  | stop => contradiction
  | down member lower =>
      obtain ⟨selected, seeds⟩ := seeded _ member
      have apart := (seeds.inner_bounded lower).fresh name inside
      simpa only [List.mem_cons, List.not_mem_nil, or_false, not_or] using apart

/-- Over any types, expanding the records of a query or the type of a reference comes to an
end.  On every way down through the result the composite fields are at most as many as the
catalog's depth, all of different types and of none that was visited.  So it is for
selected fields, but there is one level at least, and the type of a field at the top may be
that of the resource, though no composite field below it is of either. -/
theorem expansion_bounded (catalog : Catalog) :
    (∀ query,
      (∃ error, catalog.queryRecordType query = .error error ∧
        catalog.getFields query = .error error) ∨
      ∃ recordType, catalog.queryRecordType query = .ok recordType ∧
        catalog.Settles recordType [recordType] (catalog.getFields query)) ∧
    (∀ (ref : TypeRef) visited,
      (∃ error, ref.namedTypeFor "<type>" = .error error ∧
        catalog.deconfineFields ref visited = .error error) ∨
      ∃ typeName, ref.namedTypeFor "<type>" = .ok typeName ∧
        catalog.Settles typeName visited (catalog.deconfineFields ref visited)) ∧
    ∀ (resource : Resource) names fields, resource.sourceFields catalog names = .ok fields →
      ∃ recordType available origins,
        catalog.metaFields (resource.queryName.getD "") = .ok (recordType, available) ∧
        List.Forall₂ (catalog.Seeds resource) (names.filterMap (findMeta? available)) origins ∧
        fields = Origin.fields origins ∧ Origin.AllBounded (max 1 catalog.maxDepth) [] origins ∧
        ∀ top below, Way Origin.inner origins (top :: below) →
          ∀ name ∈ Origin.compositeTypes below,
            name ≠ resource.name ∧ name ≠ top.field.typeName := by
  refine ⟨?_, ?_, fun resource names fields chosen => sourceFields_bounded chosen⟩
  · intro query
    cases served : catalog.queryRecordType query with
    | error error =>
        refine .inl ⟨error, rfl, ?_⟩
        rw [getFields, served]
        rfl
    | ok recordType =>
        refine .inr ⟨recordType, rfl, ?_⟩
        rw [getFields, served]
        exact catalog.settles_expandType recordType [recordType]
  · intro ref visited
    cases named : ref.namedTypeFor "<type>" with
    | error error =>
        refine .inl ⟨error, rfl, ?_⟩
        rw [deconfineFields, named]
        rfl
    | ok typeName =>
        refine .inr ⟨typeName, rfl, ?_⟩
        rw [deconfineFields, named]
        exact catalog.settles_expandType typeName visited

theorem teams_expansion_bounded :
    let resource : Resource := ⟨"r1", "Team", some "allTeams"⟩
    let parent : Field := .makeObject "parent" "Team"
      [.makeScalar "name" "String", .makeObject "lead" "User" [.makeScalar "name" "String"]]
    let selected : List Field := [parent, .makeObject "lead" "User" userFields, parent]
    teams.Settles "Team" ["Team"] (.ok teamFields) ∧
      teams.Settles "User" [] (teams.deconfineFields (recordRef "User") []) ∧
      resource.sourceFields teams ["parent", "lead", "salary", "parent"] = .ok selected ∧
      ∃ origins, selected = Origin.fields origins ∧ Origin.AllBounded 2 [] origins ∧
        ∀ top below, Way Origin.inner origins (top :: below) →
          "Team" ∉ Origin.compositeTypes below := by
  intro resource parent selected
  have chosen : resource.sourceFields teams ["parent", "lead", "salary", "parent"] = .ok selected :=
    rfl
  obtain ⟨records, types, selections⟩ := expansion_bounded teams
  refine ⟨?_, ?_, chosen, ?_⟩
  · obtain ⟨error, unserved, -⟩ | ⟨recordType, served, settles⟩ := records "allTeams"
    · contradiction
    · cases served
      exact settles
  · obtain ⟨error, unnamed, -⟩ | ⟨typeName, named, settles⟩ := types (recordRef "User") []
    · contradiction
    · cases named
      exact settles
  · obtain ⟨_, _, origins, -, -, same, bounded, apart⟩ := selections resource _ _ chosen
    refine ⟨origins, same, bounded, fun top below passes member => ?_⟩
    exact (apart top below passes "Team" member).1 rfl

end Catalog

end Aggregation

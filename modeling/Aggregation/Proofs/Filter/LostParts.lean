import Mathlib
import Aggregation.Proofs.Filter.Reading

namespace Aggregation.Filter

/-! Which parts of a filter get lost when it is read.

A group is meant to be read with all its parts or not at all.  But what does not read as a
group is tried as a rule, which ignores a member `filters` like any other that it does not
know.  So a fault in a group, or anywhere below it, loses all of it, unless the members that
rules have keep it from reading as one.
-/

mutual

def Node.ruleCount : Node → Nat
  | .group _ filters => Node.ruleCounts filters
  | .rule _ => 1

def Node.ruleCounts : List Node → Nat
  | [] => 0
  | node :: rest => Node.ruleCount node + Node.ruleCounts rest

end

/-- The `filters` of an object. -/
def filters? : Json → Option Json
  | .object entries => entries.lookup "filters"
  | _ => none

theorem sizeOf_filters_lt {tree filters : Json} (found : filters? tree = some filters) :
    sizeOf filters < sizeOf tree := by
  cases tree with
  | object entries =>
      have := Json.sizeOf_lookup_lt (show entries.lookup "filters" = some filters from found)
      simp
      omega
  | _ => contradiction

mutual

/-- How many objects without `filters` stand in a part, however deep. -/
def leafCount (tree : Json) : Nat :=
  match _ : filters? tree with
  | some (.array items) => leafCounts items
  | some _ => 0
  | none => if tree matches .object _ then 1 else 0
termination_by sizeOf tree
decreasing_by
  have := sizeOf_filters_lt ‹filters? tree = some (.array items)›
  simp at this
  omega

def leafCounts : List Json → Nat
  | [] => 0
  | item :: rest => leafCount item + leafCounts rest
termination_by items => sizeOf items

end

mutual

/-- The outermost objects with `filters`, in a part, that do not read as groups. -/
def lost (tree : Json) : List Json :=
  match _ : filters? tree with
  | some (.array items) => if (Group.ofJson? false tree).isSome then lostIn items else [tree]
  | some _ => [tree]
  | none => []
termination_by sizeOf tree
decreasing_by
  have := sizeOf_filters_lt ‹filters? tree = some (.array items)›
  simp at this
  omega

def lostIn : List Json → List Json
  | [] => []
  | item :: rest => lost item ++ lostIn rest
termination_by items => sizeOf items

end

/-- Whether a part and all that is listed below it are objects. -/
inductive AllObjects : Json → Prop where
  | intro {entries : List (String × Json)} :
      (∀ items, entries.lookup "filters" = some (.array items) → ∀ item ∈ items, AllObjects item) →
      AllObjects (.object entries)

/-- Whether a tree has the members of a group, each as it should be. -/
structure SpellsGroup (tree : Json) : Prop where
  unrepeated : tree.isRecord Group.keys = true
  logic : ∀ slot, tree.member? 0 "logic" = some slot →
    ∃ logic : Logic, slot = .string logic.name ∨ slot = .object [(logic.name, .null)]
  parts : ∃ items, tree.member? 1 "filters" = some (.array items) ∧
    ∀ item ∈ items, ∃ node, Node.ofJson? item = some node

/-- Whether nothing keeps a tree from being a rule, whatever else it has. -/
structure SpellsRule (tree : Json) : Prop where
  unrepeated : tree.isRecord Rule.keys = true
  field : ∀ slot, tree.member? 0 "field" = some slot → ∃ text, slot = .string text
  operator : ∀ slot, tree.member? 1 "operator" = some slot → ∃ text, slot = .string text

/-- Whether a tree, if it is read, is a group of all its parts in their order. -/
def KeepsParts (tree : Json) : Prop :=
  ∀ node, Node.ofJson? tree = some node → ∃ logic items nodes,
    filters? tree = some (.array items) ∧ items.mapM Node.ofJson? = some nodes ∧
      node = .group logic nodes

variable {tree slot : Json} {items : List Json} {nodes : List Node} {node : Node} {group : Group}
  {rule : Rule}

theorem Logic.ofName?_eq_some_iff {name : String} {logic : Logic} :
    Logic.ofName? name = some logic ↔ name = logic.name := by
  constructor
  · intro named
    unfold Logic.ofName? at named
    split at named
    · cases named
      rfl
    · cases named
      rfl
    · contradiction
  · rintro rfl
    cases logic <;> rfl

theorem Logic.ofJson?_eq_some_iff {logic : Logic} :
    Logic.ofJson? false slot = some logic ↔
      slot = .string logic.name ∨ slot = .object [(logic.name, .null)] := by
  rw [Logic.ofJson?, Option.bind_eq_some_iff]
  simp only [Logic.ofName?_eq_some_iff]
  constructor
  · rintro ⟨name, spelled, rfl⟩
    unfold Json.variantName? at spelled
    split at spelled <;> simp_all
  · rintro (rfl | rfl) <;> exact ⟨_, rfl, rfl⟩

theorem Group.exists_ofJson?_iff : (∃ group, ofJson? false tree = some group) ↔ SpellsGroup tree := by
  constructor
  · rintro ⟨group, read⟩
    obtain ⟨parts, items, listed, each⟩ := Group.ofJson?_eq_some read
    unfold Group.parts? at parts
    split at parts
    · next record =>
      refine ⟨record, fun slot there => ?_, items, listed, Json.exists_of_mapM each⟩
      rw [there] at parts
      exact ⟨group.logic, Logic.ofJson?_eq_some_iff.mp parts⟩
    · contradiction
  · rintro ⟨record, logic, items, listed, each⟩
    obtain ⟨nodes, read⟩ := Json.exists_mapM each
    have parts : ∃ logic, Group.parts? false tree = some logic := by
      rw [Group.parts?, if_pos record]
      cases there : tree.member? 0 "logic" with
      | none => exact ⟨.and, rfl⟩
      | some slot =>
          obtain ⟨logic, spelled⟩ := logic slot there
          exact ⟨logic, Logic.ofJson?_eq_some_iff.mpr spelled⟩
    obtain ⟨logic, parts⟩ := parts
    exact ⟨⟨logic, nodes⟩, by simp [ofJson?, parts, listed, Json.required, Json.list?, read]⟩

theorem Rule.exists_ofJson?_iff (readable : tree.readable = true) :
    (∃ rule, ofJson? tree = some rule) ↔ SpellsRule tree := by
  constructor
  · rintro ⟨rule, read⟩
    obtain ⟨_, record, read⟩ := Option.bind_eq_some_iff.mp read
    obtain ⟨field, fieldRead, read⟩ := Option.bind_eq_some_iff.mp read
    obtain ⟨operator, operatorRead, -⟩ := Option.bind_eq_some_iff.mp read
    refine ⟨?_, Json.text_of_defaulted fieldRead, Json.text_of_defaulted operatorRead⟩
    by_contra repeated
    simp [guard, repeated] at record
  · rintro ⟨record, field, operator⟩
    obtain ⟨field, fieldRead⟩ := Json.exists_defaulted_text "" field
    obtain ⟨operator, operatorRead⟩ := Json.exists_defaulted_text "" operator
    have below : ∀ value, tree.member? 2 "value" = some value → value.readable = true :=
      fun value found => Json.readable_of_member? readable found
    obtain ⟨value, valueRead⟩ := Json.exists_optional_value below
    exact ⟨⟨field, operator, value⟩, by
      simp [ofJson?, record, fieldRead, operatorRead, valueRead, guard]⟩

theorem member?_of_filters? {filters : Json} (given : filters? tree = some filters)
    (position : Nat) : tree.member? position "filters" = some filters := by
  cases tree with
  | object entries => exact given
  | _ => contradiction

theorem keepsParts_iff_of_readable {filters : Json} (readable : tree.readable = true)
    (given : filters? tree = some filters) :
    KeepsParts tree ↔ SpellsGroup tree ∨ ¬ SpellsRule tree := by
  rw [← Group.exists_ofJson?_iff, ← Rule.exists_ofJson?_iff readable]
  constructor
  · intro kept
    cases asGroup : Group.ofJson? false tree with
    | some group => exact .inl ⟨group, rfl⟩
    | none =>
        refine .inr fun ⟨rule, asRule⟩ => ?_
        have read : Node.ofJson? tree = some (.rule rule) := by
          rw [Node.ofJson?_eq readable, Node.choose?, asGroup, asRule]
          rfl
        obtain ⟨logic, items, nodes, -, -, same⟩ := kept _ read
        contradiction
  · intro spelled node read
    obtain ⟨group, asGroup, rfl⟩ | ⟨rule, unread, asRule, rfl⟩ := Node.ofJson?_cases read
    · obtain ⟨-, items, listed, each⟩ := Group.ofJson?_eq_some asGroup
      have array : filters? tree = some (.array items) := by
        rw [given, ← member?_of_filters? given 1, listed]
      exact ⟨group.logic, items, group.filters, array, each, rfl⟩
    · obtain ⟨group, asGroup⟩ | unspelled := spelled
      · simp [unread] at asGroup
      · exact absurd ⟨rule, asRule⟩ unspelled

theorem AllObjects.of_leaf {entries : List (String × Json)}
    (leaf : entries.lookup "filters" = none) : AllObjects (.object entries) :=
  .intro fun items listed => by simp [leaf] at listed

theorem AllObjects.of_filters {entries : List (String × Json)}
    (given : entries.lookup "filters" = some (.array items))
    (each : ∀ item ∈ items, AllObjects item) : AllObjects (.object entries) :=
  .intro fun others listed => by
    rw [given] at listed
    cases listed
    exact each

section Counts

variable (given : filters? tree = some (.array items))

include given

theorem leafCount_of_listed : leafCount tree = leafCounts items := by
  rw [leafCount]
  split <;> simp_all

theorem lost_of_group (read : Group.ofJson? false tree = some group) : lost tree = lostIn items := by
  rw [lost]
  split <;> simp_all

end Counts

theorem lost_of_rule {filters : Json} (given : filters? tree = some filters)
    (unread : Group.ofJson? false tree = none) : lost tree = [tree] := by
  rw [lost]
  split <;> simp_all

theorem lost_of_leaf (leaf : filters? tree = none) : lost tree = [] := by
  rw [lost]
  split <;> simp_all

theorem leafCounts_append (items others : List Json) :
    leafCounts (items ++ others) = leafCounts items + leafCounts others := by
  induction items with
  | nil => simp [leafCounts]
  | cons item rest ih =>
      rw [List.cons_append, leafCounts, ih, leafCounts]
      omega

theorem leafCount_of_leaf {entries : List (String × Json)}
    (leaf : filters? (.object entries) = none) : leafCount (.object entries) = 1 := by
  rw [leafCount]
  split <;> simp_all

-- On what was read, since a group there has as many parts as are listed in the tree.
mutual

theorem Node.ruleCount_eq : (node : Node) → (tree : Json) → Node.ofJson? tree = some node →
    AllObjects tree →
      node.ruleCount + leafCounts (lost tree) = leafCount tree + (lost tree).length
  | .group logic filters, tree, read, objects => by
      cases objects with
      | @intro entries below =>
          obtain ⟨group, asGroup, same⟩ | ⟨rule, -, -, same⟩ := Node.ofJson?_cases read
          · cases same
            obtain ⟨-, items, listed, each⟩ := Group.ofJson?_eq_some asGroup
            have given : filters? (.object entries) = some (.array items) := listed
            rw [lost_of_group given asGroup, leafCount_of_listed given]
            exact Node.ruleCounts_eq group.filters items each (below items listed)
          · contradiction
  | .rule r, tree, read, objects => by
      cases objects with
      | @intro entries below =>
          obtain ⟨group, -, same⟩ | ⟨other, unread, -, -⟩ := Node.ofJson?_cases read
          · contradiction
          · -- One rule is read, whether no part was listed or all that were are lost.
            cases given : filters? (.object entries) with
            | none =>
                rw [lost_of_leaf given, leafCount_of_leaf given]
                simp [Node.ruleCount, leafCounts]
            | some filters =>
                rw [lost_of_rule given unread]
                simp [Node.ruleCount, leafCounts, Nat.add_comm]

theorem Node.ruleCounts_eq : (nodes : List Node) → (items : List Json) →
    items.mapM Node.ofJson? = some nodes → (∀ item ∈ items, AllObjects item) →
      Node.ruleCounts nodes + leafCounts (lostIn items) =
        leafCounts items + (lostIn items).length
  | [], items, each, objects => by
      cases Json.mapM_eq_some_iff.mp each
      simp [Node.ruleCounts, lostIn, leafCounts]
  | node :: rest, items, each, objects => by
      cases Json.mapM_eq_some_iff.mp each with
      | cons one others =>
          have head := Node.ruleCount_eq node _ one (objects _ List.mem_cons_self)
          have tail := Node.ruleCounts_eq rest _ (Json.mapM_eq_some_iff.mpr others)
            fun item member => objects item (List.mem_cons_of_mem _ member)
          simp only [Node.ruleCounts, lostIn, leafCounts, leafCounts_append, List.length_append]
          omega

end

/-- An object with `filters` keeps its parts if it spells a group, and otherwise only if
something keeps it from reading as a rule.  A filter is left with a rule for each object
without `filters`, but for those in the parts that are lost, which become one rule each. -/
theorem parts_kept_iff (tree : Json) :
    (∀ filters, tree.readable = true → filters? tree = some filters →
      (KeepsParts tree ↔ SpellsGroup tree ∨ ¬ SpellsRule tree)) ∧
    ∀ whole, Stage.ofJson? tree = some (.filter whole) →
      ∃ form items, tree.member? 1 "form" = some form ∧
        form.member? 1 "filters" = some (.array items) ∧
        items.mapM Node.ofJson? = some whole.filters ∧
        ((∀ item ∈ items, AllObjects item) →
          Node.ruleCounts whole.filters + leafCounts (lostIn items) =
            leafCounts items + (lostIn items).length) := by
  refine ⟨fun filters readable given => keepsParts_iff_of_readable readable given,
    fun whole read => ?_⟩
  obtain ⟨form, items, there, listed, each⟩ := Stage.filter_of_ofJson? read
  exact ⟨form, items, there, listed, each, Node.ruleCounts_eq whole.filters items each⟩

/-- A group of two rules, where the field of the second is no text. -/
def mistyped : Json :=
  .object [("logic", .string "or"), ("filters", .array
    [.object [("field", .string "severity"), ("operator", .string "eq")],
      .object [("field", .ofNat 7)]])]

def besideMistyped : List Json := [.object [("field", .string "region")], mistyped]

theorem besideMistyped_allObjects : ∀ item ∈ besideMistyped, AllObjects item := by
  have mistyped : AllObjects mistyped := .of_filters rfl (by simp [AllObjects.of_leaf])
  simp [besideMistyped, AllObjects.of_leaf, mistyped]

theorem besideMistyped_counts :
    (KeepsParts mistyped ↔ SpellsGroup mistyped ∨ ¬ SpellsRule mistyped) ∧
    ∃ form whole, form = .object [("filters", .array besideMistyped)] ∧
      Stage.ofJson? (.object [("type", .string "filter"), ("form", form)]) = some (.filter whole) ∧
      lostIn besideMistyped = [mistyped] ∧
      Node.ruleCounts whole.filters + leafCounts (lostIn besideMistyped) =
        leafCounts besideMistyped + (lostIn besideMistyped).length := by
  let form : Json := .object [("filters", .array besideMistyped)]
  let whole : Group := ⟨.and, [.rule ⟨"region", "", none⟩, .rule {}]⟩
  let stage : Json := .object [("type", .string "filter"), ("form", form)]
  have read : Stage.ofJson? stage = some (.filter whole) := by cbv
  obtain ⟨-, counts⟩ := parts_kept_iff stage
  obtain ⟨_, _, there, listed, -, counted⟩ := counts whole read
  cases there
  cases listed
  obtain ⟨kept, -⟩ := parts_kept_iff mistyped
  exact ⟨kept _ (by cbv) rfl, form, whole, rfl, read, by cbv,
    counted besideMistyped_allObjects⟩

/-- The group is read as a rule on no field. -/
theorem mistyped_not_kept :
    ∃ filters, filters? mistyped = some filters ∧ Node.ofJson? mistyped = some (.rule {}) ∧
      ¬ KeepsParts mistyped := by
  have read : Node.ofJson? mistyped = some (.rule {}) := by cbv
  refine ⟨_, rfl, read, fun kept => ?_⟩
  obtain ⟨logic, items, nodes, -, -, same⟩ := kept _ read
  contradiction

end Aggregation.Filter

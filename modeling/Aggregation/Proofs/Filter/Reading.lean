import Aggregation.Stage.Codec
import Aggregation.Proofs.Json.Record

namespace Aggregation

/-! How a part of a filter is read.

Only that a group was tried before a rule decides between the two: a part that reads as a
group is that group, and anything else is a rule, if it reads as one.
-/

namespace Filter

/-- Whether a rule stands somewhere in a part of a filter. -/
inductive Node.Has (rule : Rule) : Node → Prop where
  | here : Has rule (.rule rule)
  | within {logic : Logic} {filters : List Node} {node : Node} :
      node ∈ filters → Has rule node → Has rule (.group logic filters)

/-- A group as a part of a filter. -/
def Group.node (group : Group) : Node := .group group.logic group.filters

variable {tree item : Json} {items : List Json} {nodes : List Node} {group : Group}

theorem Node.allOfTrees?_eq_mapM (items : List Json) :
    Node.allOfTrees? items = items.mapM Node.ofTree? := by
  induction items with
  | nil => simp [Node.allOfTrees?]
  | cons first rest ih => simp [Node.allOfTrees?, List.mapM_cons, ih]

theorem Node.mapM_ofJson? (readable : ∀ item ∈ items, item.readable = true) :
    items.mapM Node.ofJson? = items.mapM Node.ofTree? := by
  induction items with
  | nil => rfl
  | cons first rest ih =>
      have head : Node.ofJson? first = Node.ofTree? first := if_pos (readable first List.mem_cons_self)
      have tail := ih fun item member => readable item (List.mem_cons_of_mem first member)
      rw [List.mapM_cons, List.mapM_cons, head, tail]

theorem Group.ofJson?_of_readable {emptyToo : Bool} {logic : Logic}
    (readable : tree.readable = true) (parts : Group.parts? emptyToo tree = some logic)
    (listed : tree.member? 1 "filters" = some (.array items)) :
    Group.ofJson? emptyToo tree = (Node.allOfTrees? items).map (⟨logic, ·⟩) := by
  have each : ∀ item ∈ items, item.readable = true := fun item member =>
    Json.readable_of_mem (Json.readable_of_member? readable listed) member
  rw [Node.allOfTrees?_eq_mapM, ← Node.mapM_ofJson? each]
  cases filters : items.mapM Node.ofJson? <;>
    simp [Group.ofJson?, parts, listed, Json.required, Json.list?, filters]

/-- The group that a tree reads as, or else the rule. -/
def Node.choose? (tree : Json) : Option Node :=
  ((Group.ofJson? false tree).map Group.node).or ((Rule.ofJson? tree).map .rule)

theorem Node.ofJson?_eq (readable : tree.readable = true) :
    Node.ofJson? tree = Node.choose? tree := by
  rw [Node.ofJson?, if_pos readable, Node.ofTree?, Node.choose?]
  cases parts : Group.parts? false tree with
  | none => simp [Group.ofJson?, parts]
  | some logic =>
      cases listed : tree.member? 1 "filters" with
      | none => simp [Group.ofJson?, parts, listed, Json.required]
      | some filters =>
          cases filters with
          | array items =>
              rw [Group.ofJson?_of_readable readable parts listed]
              cases each : Node.allOfTrees? items <;> simp [each, Group.node]
          | _ => simp [Group.ofJson?, parts, listed, Json.required, Json.list?]

theorem Node.choose?_of_rule {rule : Rule} (record : tree.isRecord Group.keys = true)
    (logic : tree.member? 0 "logic" = none) (filters : tree.member? 1 "filters" = none)
    (read : Rule.ofJson? tree = some rule) : Node.choose? tree = some (.rule rule) := by
  simp [choose?, Group.ofJson?, Group.parts?, record, logic, filters, Json.required,
    Json.defaulted, read]

theorem Node.choose?_of_group (read : Group.ofJson? false tree = some group) :
    Node.choose? tree = some group.node := by
  rw [choose?, read, Option.map_some, Option.some_or]

theorem Node.readable_of_ofJson? {node : Node} (read : Node.ofJson? tree = some node) :
    tree.readable = true := by
  rw [Node.ofJson?] at read
  split at read
  · assumption
  · contradiction

/-- What a part was read as tells how it was read. -/
theorem Node.ofJson?_cases {node : Node} (read : Node.ofJson? tree = some node) :
    (∃ group, Group.ofJson? false tree = some group ∧ node = group.node) ∨
      ∃ rule, Group.ofJson? false tree = none ∧ Rule.ofJson? tree = some rule ∧
        node = .rule rule := by
  rw [Node.ofJson?_eq (Node.readable_of_ofJson? read), Node.choose?] at read
  cases asGroup : Group.ofJson? false tree with
  | some group =>
      simp only [asGroup, Option.map_some, Option.some_or, Option.some.injEq] at read
      exact .inl ⟨group, rfl, read.symm⟩
  | none =>
      simp only [asGroup, Option.map_none, Option.none_or, Option.map_eq_some_iff] at read
      obtain ⟨rule, asRule, same⟩ := read
      exact .inr ⟨rule, rfl, asRule, same.symm⟩

theorem Group.ofJson?_eq_some {emptyToo : Bool} (read : Group.ofJson? emptyToo tree = some group) :
    Group.parts? emptyToo tree = some group.logic ∧
      ∃ items, tree.member? 1 "filters" = some (.array items) ∧
        items.mapM Node.ofJson? = some group.filters := by
  obtain ⟨logic, parts, read⟩ := Option.bind_eq_some_iff.mp read
  obtain ⟨filters, listed, same⟩ := Option.bind_eq_some_iff.mp read
  cases same
  obtain ⟨slot, found, listed⟩ := Option.bind_eq_some_iff.mp listed
  obtain ⟨items, rfl, each⟩ := Json.list?_eq_some_iff.mp listed
  exact ⟨parts, items, found, each⟩

end Filter

theorem Stage.filter_of_ofJson? {tree : Json} {whole : Filter.Group}
    (read : Stage.ofJson? tree = some (.filter whole)) :
    ∃ form items, tree.member? 1 "form" = some form ∧
      form.member? 1 "filters" = some (.array items) ∧
      items.mapM Filter.Node.ofJson? = some whole.filters := by
  obtain ⟨_, -, read⟩ := Option.bind_eq_some_iff.mp read
  obtain ⟨kind, -, read⟩ := Option.bind_eq_some_iff.mp read
  obtain ⟨form, there, read⟩ := Option.bind_eq_some_iff.mp read
  obtain ⟨_, -, read⟩ := Option.bind_eq_some_iff.mp read
  cases kind with
  | filter =>
      obtain ⟨group, asGroup, same⟩ := Option.map_eq_some_iff.mp read
      cases same
      obtain ⟨-, items, listed, each⟩ := Filter.Group.ofJson?_eq_some asGroup
      exact ⟨form, items, there, listed, each⟩
  | sort =>
      obtain ⟨_, -, read⟩ := Option.bind_eq_some_iff.mp read
      obtain ⟨_, -, read⟩ := Option.bind_eq_some_iff.mp read
      obtain ⟨_, -, same⟩ := Option.bind_eq_some_iff.mp read
      cases same
  | _ =>
      obtain ⟨_, -, same⟩ := Option.map_eq_some_iff.mp read
      cases same

end Aggregation

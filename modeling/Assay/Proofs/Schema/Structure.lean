import Assay.Schema.Tree

/-! The shape of schema trees: nodes whose children are replaced, induction over the nodes of a
tree, and the check of a tree as the check of its root whose children have been replaced by their
own checks.
-/

namespace Assay

/-- Something holds of every child of an object node. -/
structure ObjectNode.Every {α : Type} (holds : α → Prop) (node : ObjectNode α) : Prop where
  properties : ∀ entry ∈ node.properties, holds entry.2
  patterns : ∀ entry ∈ node.patterns, holds entry.2
  additional : ∀ child, node.additional.schema? = some child → holds child

/-- The names that a node declares are those that it declares with its children changed. -/
@[simp]
theorem ObjectNode.declares_map {α β : Type} (f : α → β) (node : ObjectNode α) (name : String)
    : (node.map f).declares name = node.declares name := by
  simp [declares, map, mapEntries, List.any_map, Function.comp_def]

variable {α β γ : Type}

/-- There is a schema for additional members exactly where they are validated by one. -/
def Additional.Agrees (additional : Additional α)
    : Prop :=
  additional.policy = .validate ↔ additional.schema?.isSome

namespace Additional

theorem agrees_allow
    : (allow : Additional α).Agrees :=
  iff_of_false nofun nofun

theorem agrees_deny
    : (deny : Additional α).Agrees :=
  iff_of_false nofun nofun

theorem agrees_schema {child : α}
    : (schema child).Agrees :=
  iff_of_true rfl rfl

theorem eq_schema {additional : Additional α} {child : α}
    (validates : additional.policy = .validate) (given : additional.schema? = some child)
    : additional = .schema child := by
  obtain ⟨policy, schema⟩ := additional
  obtain rfl := validates
  obtain rfl := given
  rfl

/-- Only the policy, and whether there is a schema, matter. -/
theorem agrees_congr {additional : Additional α} {other : Additional β}
    (policy : additional.policy = other.policy)
    (schema : additional.schema?.isSome = other.schema?.isSome)
    : additional.Agrees ↔ other.Agrees := by
  rw [Agrees, Agrees, policy, schema]

end Additional

namespace ObjectNode

/-- A node is replaced part by part. -/
theorem map?_eq_some_iff {f : α → Option β} {node : ObjectNode α} {mapped : ObjectNode β}
    : node.map? f = some mapped
      ↔ mapEntries? f node.properties = some mapped.properties
        ∧ node.required = mapped.required
        ∧ mapEntries? f node.patterns = some mapped.patterns
        ∧ node.additional.map? f = some mapped.additional := by
  obtain ⟨properties, required, patterns, additional⟩ := node
  obtain ⟨properties', required', patterns', additional'⟩ := mapped
  unfold map?
  cases mapEntries? f properties with
  | none => simp
  | some declared =>
      cases mapEntries? f patterns with
      | none => simp
      | some matched => cases additional.map? f <;> simp

theorem mapEntries?_cons_eq_some_iff {f : α → Option β} {name : γ} {child : α}
    {rest : List (γ × α)} {mapped : List (γ × β)}
    : mapEntries? f ((name, child) :: rest) = some mapped
      ↔ ∃ other others,
          f child = some other
          ∧ mapEntries? f rest = some others
          ∧ (name, other) :: others = mapped := by
  simp [mapEntries?, Option.bind_eq_some_iff]

end ObjectNode

namespace Schema

/-- What holds of leaves, and of containers whose children it holds of, holds of every tree. -/
@[elab_as_elim]
theorem treeInduction {motive : Schema → Prop}
    (leaf : ∀ registry node, motive (.leaf registry node))
    (array : ∀ node, motive node.items → motive (.array node))
    (object : ∀ node, node.Every motive → motive (.object node))
    (schema : Schema)
    : motive schema := by
  refine @Schema.rec motive (fun node => motive node.items) (fun node => node.Every motive)
    (fun entries => ∀ entry ∈ entries, motive entry.2)
    (fun entries => ∀ entry ∈ entries, motive entry.2)
    (fun additional => ∀ child, additional.schema? = some child → motive child)
    (fun entry => motive entry.2) (fun entry => motive entry.2)
    (fun schema? => ∀ child, schema? = some child → motive child)
    leaf array object (fun _ _ _ items => items)
    (fun _ _ _ _ properties patterns additional => ⟨properties, patterns, additional⟩)
    ?_ ?_ ?_ ?_ (fun _ _ child => child) (fun _ _ child => child) (fun _ _ child => child)
    ?_ ?_ schema
  · exact fun entry member => nomatch member
  · exact fun _ _ head rest => List.forall_mem_cons.mpr ⟨head, rest⟩
  · exact fun entry member => nomatch member
  · exact fun _ _ head rest => List.forall_mem_cons.mpr ⟨head, rest⟩
  · exact fun child given => nomatch given
  · intro inner holds child given
    obtain rfl := Option.some.inj given
    exact holds

variable (formats : Registries)

theorem propertyChecks_eq (entries : List (Label × Schema))
    : propertyChecks formats entries = ObjectNode.mapEntries (check formats) entries := by
  induction entries with
  | nil => rfl
  | cons entry rest ih => simp [propertyChecks, ih, ObjectNode.mapEntries]

theorem patternChecks_eq (entries : List (Slot Pattern × Schema))
    : patternChecks formats entries = ObjectNode.mapEntries (check formats) entries := by
  induction entries with
  | nil => rfl
  | cons entry rest ih => simp [patternChecks, ih, ObjectNode.mapEntries]

theorem additionalCheck_eq (additional : Additional Schema)
    : additionalCheck formats additional = additional.map (check formats) := by
  obtain ⟨policy, schema?⟩ := additional
  cases schema? <;> rfl

/-- An array is checked as its node over the check of its items. -/
theorem check_array (node : ArrayNode Schema)
    : check formats (.array node) = (node.map (check formats)).check := rfl

/-- An object is checked as its node over the checks of its children. -/
theorem check_object (node : ObjectNode Schema)
    : check formats (.object node) = (node.map (check formats)).check := by
  obtain ⟨properties, required, patterns, additional⟩ := node
  rw [check, propertyChecks_eq, patternChecks_eq, additionalCheck_eq]
  rfl

end Schema

end Assay

import Assay.Proofs.Schema.Children
import Assay.Proofs.Store.Readback
import Mathlib

/-! Nodes that are made of nodes with trees below them. Making one succeeds together with making the
tree of the trees, and that tree is then the one below the node.
-/

namespace Assay

-----------------------------------------------------------------------------------------
-- Outcomes that match
-----------------------------------------------------------------------------------------

section Matching

variable {ε α β γ δ : Type}

/-- An outcome is an answer exactly if there is another answer of some kind, and the two are
related. -/
structure Matches (related : α → β → Prop) (outcome : Except ε α) (answers : β → Prop) : Prop where
  forth : ∀ {answer}, outcome = .ok answer → ∃ other, answers other ∧ related answer other
  back : ∀ {other}, answers other → ∃ answer, outcome = .ok answer ∧ related answer other

namespace Matches

variable {related : α → β → Prop} {outcome : Except ε α} {answers others : β → Prop}

theorem ok {answer : α} {other : β} (here : related answer other)
    : Matches related (.ok answer : Except ε α) (· = other) := by
  refine ⟨fun same => ⟨other, rfl, Except.ok.inj same ▸ here⟩, ?_⟩
  rintro _ rfl
  exact ⟨answer, rfl, here⟩

/-- An outcome matches its own answers. -/
theorem same (outcome : Except ε α)
    : Matches (· = ·) outcome (outcome = .ok ·) :=
  ⟨fun returned => ⟨_, returned, rfl⟩, fun returned => ⟨_, returned, rfl⟩⟩

theorem congr (found : Matches related outcome answers)
    (same : ∀ other, others other ↔ answers other)
    : Matches related outcome others := by
  obtain rfl : others = answers := funext fun other => propext (same other)
  exact found

/-- Steps that match in a row match, where the second ones do on related answers of the first. -/
theorem bind {after : γ → δ → Prop} {next : α → Except ε γ} {later : β → δ → Prop}
    (first : Matches related outcome answers)
    (second
      : ∀ answer other,
          answers other → related answer other → Matches after (next answer) (later other))
    : Matches after (outcome >>= next) fun last => ∃ other, answers other ∧ later other last := by
  constructor
  · intro last done
    obtain ⟨answer, here, done⟩ := bind_eq_ok_iff.mp done
    obtain ⟨other, holds, between⟩ := first.forth here
    obtain ⟨end', holds', behind⟩ := (second answer other holds between).forth done
    exact ⟨end', ⟨other, holds, holds'⟩, behind⟩
  · rintro last ⟨other, holds, holds'⟩
    obtain ⟨answer, here, between⟩ := first.back holds
    obtain ⟨end', done, behind⟩ := (second answer other holds between).back holds'
    exact ⟨end', bind_eq_ok_iff.mpr ⟨answer, here, done⟩, behind⟩

/-- One outcome in two forms matches itself. -/
theorem map_map (outcome : Except ε γ) {left : γ → α} {right : γ → β}
    (each : ∀ answer, related (left answer) (right answer))
    : Matches related (outcome.map left) fun other => outcome.map right = .ok other := by
  cases outcome with
  | error failure => exact ⟨nofun, nofun⟩
  | ok answer => exact (ok (each answer)).congr fun other => by simp [Except.map, eq_comm]

end Matches

end Matching

-----------------------------------------------------------------------------------------
-- Children with their replacements
-----------------------------------------------------------------------------------------

section Replacement

variable {α β γ : Type} {f : α → Option β}

/-- A child and what it is replaced by. -/
structure Replaced (f : α → Option β) where
  child : α
  other : β
  found : f child = some other

namespace ObjectNode

/-- Entries that are replaced one by one are those of a list of replacements. -/
theorem exists_replaced_of_mapEntries? {entries : List (γ × α)} {mapped : List (γ × β)}
    (found : mapEntries? f entries = some mapped)
    : ∃ replaced : List (γ × Replaced f),
        mapEntries Replaced.child replaced = entries
        ∧ mapEntries Replaced.other replaced = mapped := by
  induction entries generalizing mapped with
  | nil =>
      obtain rfl := Option.some.inj found
      exact ⟨[], rfl, rfl⟩
  | cons entry rest ih =>
      obtain ⟨other, others, here, rest, rfl⟩ := mapEntries?_cons_eq_some_iff.mp found
      obtain ⟨replaced, rfl, rfl⟩ := ih rest
      exact ⟨(entry.1, ⟨entry.2, other, here⟩) :: replaced, rfl, rfl⟩

theorem mapEntries?_replaced (replaced : List (γ × Replaced f))
    : mapEntries? f (mapEntries Replaced.child replaced)
      = some (mapEntries Replaced.other replaced) := by
  induction replaced with
  | nil => rfl
  | cons entry rest ih =>
      exact mapEntries?_cons_eq_some_iff.mpr ⟨_, _, entry.2.found, ih, rfl⟩

/-- A node of children with their replacements is replaced child by child. -/
theorem map?_replaced (node : ObjectNode (Replaced f))
    : (node.map Replaced.child).map? f = some (node.map Replaced.other) := by
  refine map?_eq_some_iff.mpr ⟨mapEntries?_replaced _, rfl, mapEntries?_replaced _, ?_⟩
  refine Additional.map?_eq_some_iff.mpr ⟨rfl, ?_⟩
  cases given : node.additional.schema? with
  | none => exact Or.inl (by simp [map, Additional.map, given])
  | some child =>
      refine Or.inr ⟨child.child, child.other, ?_, child.found, ?_⟩
      · simp [map, Additional.map, given]
      · simp [map, Additional.map, given]

end ObjectNode

/-- An object can be made of children exactly if it can be made of their replacements, and is then
replaced by that one. -/
theorem ObjectNode.matches_ofChildren {properties : List (String × α)}
    {properties' : List (String × β)} {patterns : List (String × α)}
    {patterns' : List (String × β)} {child : Option α} {child' : Option β}
    (declared : mapEntries? f properties = some properties')
    (matched : mapEntries? f patterns = some patterns')
    (additional : Option.Rel (fun child other => f child = some other) child child')
    (required : List Value) (otherwise : Value)
    : Matches (fun node other => node.map? f = some other)
        (ofChildren properties required patterns (.orElse otherwise child))
        fun other =>
          ofChildren properties' required patterns' (.orElse otherwise child') = .ok other := by
  obtain ⟨properties, rfl, rfl⟩ := exists_replaced_of_mapEntries? declared
  obtain ⟨patterns, rfl, rfl⟩ := exists_replaced_of_mapEntries? matched
  obtain ⟨slot, left, right⟩
      : ∃ slot : Slot (Replaced f),
          .orElse otherwise child = slot.map Replaced.child
          ∧ .orElse otherwise child' = slot.map Replaced.other := by
    cases additional with
    | none => exact ⟨.stray otherwise, rfl, rfl⟩
    | some here => exact ⟨.proper ⟨_, _, here⟩, rfl, rfl⟩
  rw [left, right, map_ofChildren, map_ofChildren]
  exact .map_map _ map?_replaced

/-- An array can be made of items exactly if it can be made of their replacement. -/
theorem ArrayNode.matches_ofItems {items : α} {items' : β} (replaced : f items = some items')
    (minItems maxItems : Value)
    : Matches (fun node other => node.map? f = some other) (ofItems items minItems maxItems)
        fun other => ofItems items' minItems maxItems = .ok other := by
  obtain ⟨items, rfl, rfl⟩ : ∃ both : Replaced f, both.child = items ∧ both.other = items' :=
    ⟨⟨items, items', replaced⟩, rfl, rfl⟩
  rw [map_ofItems, map_ofItems]
  exact .map_map _ fun node => by simp [map, map?, node.items.found]

end Replacement

-----------------------------------------------------------------------------------------
-- Nodes in stores
-----------------------------------------------------------------------------------------

namespace Store

/-- A node has been put into a store with a tree below it, and what was there is there still. -/
structure Puts (before : Store) (made : NodeId × Store) (schema : Schema) : Prop where
  grows : before.Extends made.2
  reads : ReadsBack made schema

/-- What has been put into a store that has grown has been put into it before. -/
theorem Puts.of_grown {before between : Store} {made : NodeId × Store} {schema : Schema}
    (grown : before.Extends between) (puts : between.Puts made schema)
    : before.Puts made schema :=
  ⟨grown.trans puts.grows, puts.reads⟩

theorem puts_add {store : Store} {cell : Cell} {schema : Schema}
    (tree : cellTree? store.tree? cell = some schema)
    : store.Puts (store.add cell) schema :=
  ⟨extends_add store cell, tree?_add tree⟩

end Store

end Assay

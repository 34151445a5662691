import Assay.Proofs.Schema.Reordering
import Assay.Proofs.Store.Leaves

/-! The order of members in a document makes no difference to the verdict of a node, whatever has
happened to its store, as long as its leaves are bound to the built-in formats.
-/

namespace Assay.Store

variable {events : List Event} {formats : Registries} {depth : Nat} {id : NodeId}
  {schema : Schema}

/-- The leaves of a tree consult the built-in formats alone, now and in all that has happened. -/
def BuiltIn (events : List Event) (formats : Registries) (schema : Schema)
    : Prop :=
  ∀ registry leaf,
    schema.Contains (.leaf registry leaf)
    → formats registry = .builtIn ∧ ∀ event ∈ events, event.Consults registry .builtIn

theorem settled_of_builtIn (unfolds : (afterAll {} events).unfoldTo depth id = some schema)
    (builtIn : BuiltIn events formats schema)
    : schema.Settled formats := by
  intro registry leaf contains
  obtain ⟨known, consults⟩ := builtIn registry leaf contains
  obtain ⟨place, found⟩ := get?_of_contains unfolds contains
  exact ⟨known, consistent_afterAll every_empty consults place _ found leaf rfl⟩

/-- A node without cycles below it, whose leaves consult the built-in formats, returns for a
document if and only if it does for one with the members of objects in another order, at any depth.
The violations are the same up to their order, and in the same order if no object below has patterns
of members and all of them allow additional ones. -/
theorem check_independent_of_member_order {document other : Value}
    (unfolds : (afterAll {} events).unfoldTo depth id = some schema)
    (builtIn : BuiltIn events formats schema) (reordered : document.Reordered other)
    : ((∃ violations, (afterAll {} events).check formats id document = .ok violations)
        ↔ ∃ violations, (afterAll {} events).check formats id other = .ok violations)
      ∧ ∀ violations others,
          (afterAll {} events).check formats id document = .ok violations
          → (afterAll {} events).check formats id other = .ok others
          → violations.Perm others
            ∧ ((∀ node,
                  schema.Contains (.object node)
                  → node.patterns = [] ∧ node.additional.policy = .allow)
              → violations = others) := by
  have settled := settled_of_builtIn unfolds builtIn
  rw [check_eq_of_unfoldTo unfolds]
  refine ⟨⟨?_, ?_⟩, ?_⟩
  · rintro ⟨violations, returned⟩
    obtain ⟨others, returned, -⟩ := Schema.check_reordered settled reordered returned
    exact ⟨others, returned⟩
  · rintro ⟨others, returned⟩
    obtain ⟨violations, returned, -⟩ := Schema.check_reordered settled reordered.symm returned
    exact ⟨violations, returned⟩
  · intro violations others returned returned'
    obtain ⟨found, again, alike⟩ := Schema.check_reordered settled reordered returned
    obtain rfl := Except.ok.inj (again.symm.trans returned')
    exact ⟨alike.order, alike.same⟩

/-- An integer, an object that allows no member but an integer, and an object whose members are such
objects. -/
def sealedObjects : List Event :=
  [.leaf (fun _ => .builtIn) 0 [("type", .string "integer")],
    .object
      [("properties", .object [("a", .foreign (.node 0 "" ""))]),
        ("additional_properties", .bool false)],
    .object [("additional_properties", .foreign (.node 1 "" ""))]]

/-- Members that change places at both levels of a document are reported in another order. -/
theorem check_of_members_in_other_places
    : ∃ violations others,
        (afterAll {} sealedObjects).check (fun _ => .builtIn) 2
            (.object
              [("u", .object [("x", .null), ("a", .string "t")]), ("v", .object [("y", .null)])])
          = .ok violations
        ∧ (afterAll {} sealedObjects).check (fun _ => .builtIn) 2
            (.object
              [("v", .object [("y", .null)]), ("u", .object [("a", .string "t"), ("x", .null)])])
          = .ok others
        ∧ violations.Perm others
        ∧ violations.map (·.location) = [".u.a", ".u.x", ".v.y"]
        ∧ others.map (·.location) = [".v.y", ".u.a", ".u.x"] := by
  have unfolds : (afterAll {} sealedObjects).unfoldTo 3 2
      = some
          (.object
            { additional :=
                .schema
                  (.object
                    { properties := [(.text "a", .leaf 0 { type := .integer })],
                      additional := .deny }) }) :=
    rfl
  have builtIn : ∀ schema, BuiltIn sealedObjects (fun _ => .builtIn) schema := by
    intro schema registry leaf _
    simp [sealedObjects, Event.Consults]
  have reordered : Value.Reordered
      (.object
        [("u", .object [("x", .null), ("a", .string "t")]), ("v", .object [("y", .null)])])
      (.object
        [("v", .object [("y", .null)]), ("u", .object [("a", .string "t"), ("x", .null)])]) := by
    refine .object (by decide) fun name value other here there => ?_
    simp only [List.mem_cons, List.not_mem_nil, or_false, Prod.mk.injEq] at here there
    rcases here with ⟨rfl, rfl⟩ | ⟨rfl, rfl⟩
    · rcases there with ⟨apart, -⟩ | ⟨-, rfl⟩
      · exact absurd apart (by decide)
      · exact Value.reordered_of_perm (by decide) (.swap _ _ _)
    · rcases there with ⟨-, rfl⟩ | ⟨apart, -⟩
      · exact .same
      · exact absurd apart (by decide)
  obtain ⟨returns, agree⟩ := check_independent_of_member_order unfolds (builtIn _) reordered
  obtain ⟨others, returned⟩ := returns.mp ⟨_, rfl⟩
  have order := (agree _ _ rfl returned).1
  refine ⟨_, others, rfl, returned, order, rfl, ?_⟩
  obtain rfl := Except.ok.inj returned
  rfl

end Assay.Store

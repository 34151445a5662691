import Assay.Proofs.Schema.Walks
import Assay.Proofs.Store.Reachable

/-! What the nodes of a reachable store find in documents. No route through the document is told
twice, so violations and findings correspond one by one.
-/

namespace Assay.Store

/-- A node of a reachable store that has a tree returns what is met on walks through the tree and a
document whose objects name each member once: the violations stand for the findings one by one,
each at the place that its walk leads to. A route belongs to one walk, and where it leads to a part
that fails as a whole, the finding is the one violation that the schema there returns for the
part. -/
theorem check_locates_findings {store : Store} {formats : Registries} {depth : Nat} {id : NodeId}
    {schema : Schema} {document : Value} {violations : List Violation}
    (reachable : store.Reachable) (tree : store.unfoldTo depth id = some schema)
    (names : document.Distinct) (returned : store.check formats id document = .ok violations)
    : Schema.StandFor violations (schema.Meets formats document)
      ∧ (∀ route node part other rest,
          schema.Walk document route node part
          → schema.Walk document route other rest
          → node = other ∧ part = rest)
      ∧ ∀ route node part complaint,
          schema.Walk document route node part
          → node.rootComplaint? formats part = .ok (some complaint)
          → node.check formats part = .ok [.ofComplaint complaint]
            ∧ ⟨Edge.location route, complaint.message⟩ ∈ violations := by
  rw [check_eq_of_unfoldTo tree] at returned
  have distinct : schema.Distinct := distinct_of_unfoldTo reachable.distinct tree
  have stand := Schema.check_standFor distinct names returned
  refine ⟨stand, fun route node part other rest => Schema.walk_unique distinct names, ?_⟩
  intro route node part complaint walk fails
  obtain ⟨findings, -, met, rfl⟩ := stand
  have found : ⟨route, .root complaint⟩ ∈ findings := (met _).mpr ⟨node, part, walk, .root fails⟩
  refine ⟨Schema.check_of_complaint fails, List.mem_map.mpr ⟨_, found, ?_⟩⟩
  simp [Finding.violation, Breach.violation, Violation.ofComplaint]

/-- An item of the wrong type, a missing member and an unexpected one are met on three walks. -/
theorem findings_of_item_and_members
    : Schema.StandFor
        [⟨".sizes[1]", "Invalid type: must be a integer"⟩,
          ⟨".name", "Missing required property 'name'"⟩,
          ⟨".other", "Unexpected property 'other'"⟩]
        ((Schema.object
          { properties := [(.text "sizes", .array { items := .leaf 0 { type := .integer } })]
            required := [.text "name"]
            additional := .deny }).Meets (fun _ => .builtIn)
          (.object [("sizes", .list [.int 3, .string "x"]), ("other", .null)])) := by
  have reachable :=
    Reachable.empty.after (.compiled ⟨true, 0, .builtIn⟩
      (.object
        [("type", .string "object"),
          ("properties",
            .object
              [("sizes",
                .object
                  [("type", .string "array"), ("items", .object [("type", .string "integer")])])]),
          ("required", .list [.string "name"]),
          ("additionalProperties", .bool false)]))
  refine (@check_locates_findings _ (fun _ => .builtIn) 3 2 _ _ _ reachable rfl ?_ rfl).1
  refine .object (by decide) ?_
  simp only [List.forall_mem_cons, List.not_mem_nil, false_imp_iff, implies_true, and_true]
  refine ⟨.array ?_, .null⟩
  simp only [List.forall_mem_cons, List.not_mem_nil, false_imp_iff, implies_true, and_true]
  exact ⟨.number, .string⟩

end Assay.Store

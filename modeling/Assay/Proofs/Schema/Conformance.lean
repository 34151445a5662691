import Assay.Proofs.Leaf.Conformance
import Assay.Proofs.Schema.Distinct
import Assay.Proofs.Schema.Steps
import Assay.Proofs.Schema.VisitOutcomes
import Assay.Proofs.Store.Trees

/-! What it means for a document to conform to a schema tree, said by the tree alone, and that a
check finds nothing exactly in the documents that conform. Members of enumerations are found by
equality, but for marks for no number, which equal nothing and are found where they are the very
object enumerated.
-/

namespace Assay

-----------------------------------------------------------------------------------------
-- Conformance
-----------------------------------------------------------------------------------------

/-- A document conforms to a schema by what fits its leaves: a value to a leaf, an array with each
of its items and a size within the bounds, and an object whose members conform to all that describes
them. A greatest size of zero is no bound, and members that nothing covers are judged by what the
node says of them. -/
inductive Schema.ConformsBy (fits : RegistryId → Leaf → Value → Prop) : Schema → Value → Prop
  | leaf {registry node value} (conforms : fits registry node value)
    : ConformsBy fits (.leaf registry node) value
  | array {node form items} (least : node.minItems ≤ items.length)
    (greatest : node.maxItems ≠ 0 → items.length ≤ node.maxItems)
    (each : ∀ item ∈ items, ConformsBy fits node.items item)
    : ConformsBy fits (.array node) (.array form items)
  | object {node members}
    (declared
      : ∀ label child value,
          (label, child) ∈ node.properties
          → Value.member? members label.word = some value
          → ConformsBy fits child value)
    (required : ∀ name ∈ node.required, Value.member? members name.word ≠ none)
    (patterns
      : ∀ pattern child name value,
          (pattern, child) ∈ node.patterns
          → (name, value) ∈ members
          → pattern.occursIn name = .ok true
          → ConformsBy fits child value)
    (additional
      : ∀ child name value,
          node.additional = .schema child
          → (name, value) ∈ members
          → ¬ node.Covers name
          → ConformsBy fits child value)
    (denied
      : ∀ name value, node.additional.policy = .deny → (name, value) ∈ members → node.Covers name)
    : ConformsBy fits (.object node) (.object members)

/-- A document conforms to a schema: what a leaf enumerates is or equals the value. -/
abbrev Schema.Conforms (formats : Registries)
    : Schema → Value → Prop :=
  ConformsBy fun registry leaf => leaf.Conforms (formats registry)

/-- The size of an array is complained about exactly if it is out of bounds. -/
theorem ArrayNode.sizeComplaint_eq_none_iff {α : Type} (node : ArrayNode α) (size : Nat)
    : node.sizeComplaint? size = none
      ↔ node.minItems ≤ size ∧ (node.maxItems ≠ 0 → size ≤ node.maxItems) := by
  unfold sizeComplaint?
  split
  · simp only [reduceCtorEq, false_iff]
    omega
  · split
    · simp only [reduceCtorEq, false_iff]
      omega
    · simp only [true_iff]
      omega

namespace Schema

variable {formats : Registries}

/-- Nothing is wrong with a value by itself and conformance goes on wherever the schema leads. -/
def ConformsStepwise (formats : Registries) (schema : Schema) (value : Value)
    : Prop :=
  (∀ breach, ¬ schema.Breaks formats value breach)
  ∧ ∀ edge child inner, schema.Leads value edge child inner → child.Conforms formats inner

/-- A schema that complains about a value as a whole is not conformed to. -/
theorem not_stepwise_of_complaint {schema : Schema} {value : Value} {complaint : Complaint}
    (fails : schema.rootComplaint? formats value = .ok (some complaint))
    : ¬ ConformsStepwise formats schema value :=
  fun stepwise => stepwise.1 _ (.root fails)

theorem leaf_conforms_iff {registry : RegistryId} {node : Leaf} {value : Value}
    {found : Option Complaint} (judged : node.complaint? (formats registry) value = .ok found)
    : Conforms formats (.leaf registry node) value
      ↔ ConformsStepwise formats (.leaf registry node) value := by
  have settled := node.complaint_settles (formats registry) value found judged
  constructor
  · rintro ⟨conforms⟩
    obtain rfl := settled.mpr conforms
    refine ⟨fun breach breaks => ?_, fun edge child inner leads => nomatch leads⟩
    cases breaks with
    | root fails => nomatch judged.symm.trans fails
  · intro stepwise
    cases found with
    | none => exact .leaf (settled.mp rfl)
    | some complaint => exact absurd stepwise (not_stepwise_of_complaint judged)

theorem array_conforms_iff {node : ArrayNode Schema} {form : ArrayForm} {items : List Value}
    : Conforms formats (.array node) (.array form items)
      ↔ ConformsStepwise formats (.array node) (.array form items) := by
  have size := node.sizeComplaint_eq_none_iff items.length
  constructor
  · intro conforms
    cases conforms with
    | array least greatest each =>
        have fits := size.mpr ⟨least, greatest⟩
        refine ⟨fun breach breaks => ?_, fun edge child inner leads => ?_⟩
        · cases breaks with
          | root fails => nomatch (congrArg Except.ok fits).symm.trans fails
        · cases leads with
          | item _ found => exact each _ (List.mem_of_getElem? found)
  · intro stepwise
    cases complained : node.sizeComplaint? items.length with
    | some complaint =>
        exact absurd stepwise (not_stepwise_of_complaint (congrArg Except.ok complained))
    | none =>
        obtain ⟨least, greatest⟩ := size.mp complained
        refine .array least greatest fun item member => ?_
        obtain ⟨index, found⟩ := List.mem_iff_getElem?.mp member
        exact stepwise.2 _ _ _ (.item complained found)

theorem object_conforms_iff {node : ObjectNode Schema} {members : List (String × Value)}
    : Conforms formats (.object node) (.object members)
      ↔ ConformsStepwise formats (.object node) (.object members) := by
  constructor
  · intro conforms
    cases conforms with
    | object declared required patterns additional denied =>
        refine ⟨fun breach breaks => ?_, fun edge child inner leads => ?_⟩
        · cases breaks with
          | root fails => nomatch fails
          | missing needed absent =>
              cases needed with
              | declared _ needed same => exact required _ needed (same ▸ absent)
              | undeclared needed _ => exact required _ needed absent
          | unexpected deny present uncovered => exact uncovered (denied _ _ deny present)
        · cases leads with
          | declared entry present => exact declared _ _ _ entry present
          | pattern listed present hit =>
              exact patterns _ _ _ _ (List.mem_of_getElem? listed) present hit
          | additional given present uncovered =>
              exact additional _ _ _ given present uncovered
  · rintro ⟨sound, inner⟩
    refine .object ?_ ?_ ?_ ?_ ?_
    · exact fun label child value entry present => inner _ _ _ (.declared entry present)
    · intro name needed absent
      by_cases entry : ∃ entry ∈ node.properties, entry.1.word = name.word
      · obtain ⟨⟨label, child⟩, entry, same⟩ := entry
        exact sound _ (.missing (.declared entry needed same.symm) (same ▸ absent))
      · push Not at entry
        exact sound _ (.missing (.undeclared needed entry) absent)
    · intro pattern child name value entry present hit
      obtain ⟨position, listed⟩ := List.mem_iff_getElem?.mp entry
      exact inner _ _ _ (.pattern listed present hit)
    · exact fun child name value given present uncovered =>
        inner _ _ _ (.additional given present uncovered)
    · intro name value deny present
      by_contra uncovered
      exact sound _ (.unexpected deny present uncovered)

/-- Conformance is a matter of one step and of conformance where the step leads. -/
theorem conforms_iff_stepwise {schema : Schema} {value : Value} {found : Option Complaint}
    (judged : schema.rootComplaint? formats value = .ok found)
    : schema.Conforms formats value ↔ ConformsStepwise formats schema value := by
  cases schema with
  | leaf registry node => exact leaf_conforms_iff judged
  | array node =>
      cases value with
      | array form items => exact array_conforms_iff
      | _ =>
          simp only [rootComplaint?, bind_eq_ok_iff, pure_eq_ok_iff] at judged
          obtain ⟨kind, known, -⟩ := judged
          refine iff_of_false (fun conforms => by cases conforms) fun stepwise => ?_
          exact stepwise.1 (.root .notArray) (.root (by simp [rootComplaint?, known]))
  | object node =>
      cases value with
      | object members => exact object_conforms_iff
      | _ =>
          simp only [rootComplaint?, bind_eq_ok_iff, pure_eq_ok_iff] at judged
          obtain ⟨kind, known, -⟩ := judged
          refine iff_of_false (fun conforms => by cases conforms) fun stepwise => ?_
          exact stepwise.1 (.root .notObject) (.root (by simp [rootComplaint?, known]))

-----------------------------------------------------------------------------------------
-- Conformance and checks
-----------------------------------------------------------------------------------------

/-- A check that returns has judged the value as a whole. -/
theorem judged_of_returned {schema : Schema} {value : Value} {violations : List Violation}
    (returned : schema.check formats value = .ok violations)
    : ∃ found, schema.rootComplaint? formats value = .ok found := by
  obtain ⟨visits, listed, -⟩ := (check_eq_ok_iff formats schema).mp returned
  simp only [Schema.visits, bind_eq_ok_iff] at listed
  obtain ⟨found, judged, -⟩ := listed
  exact ⟨found, judged⟩

/-- A schema settles conformance to it once each child that it leads to does. -/
theorem settles_step {schema : Schema} {value : Value}
    (children
      : ∀ edge child inner,
          schema.Leads value edge child inner
          → Settles (child.check formats inner) [] (child.Conforms formats inner))
    : Settles (schema.check formats value) [] (schema.Conforms formats value) := by
  intro violations returned
  obtain ⟨found, judged⟩ := judged_of_returned returned
  rw [eq_nil_iff returned, conforms_iff_stepwise judged, ConformsStepwise]
  refine and_congr_right fun _ => forall₄_congr fun edge child inner leads => ?_
  obtain ⟨below, checked⟩ := returned_of_leads returned leads
  have settled := children edge child inner leads below checked
  rw [← settled, checked, Except.ok.injEq]

/-- Whether a check finds nothing settles conformance, by induction on the tree. -/
theorem check_settles (schema : Schema) (value : Value)
    : Settles (schema.check formats value) [] (schema.Conforms formats value) := by
  induction schema using leadsInduction generalizing value with
  | step schema below =>
      exact settles_step fun edge child inner leads => below value edge child inner leads inner

end Schema

-----------------------------------------------------------------------------------------
-- Conformance by equality
-----------------------------------------------------------------------------------------

/-- A value is a part of another one: that itself, or a part of one of its items or members. -/
inductive Value.Part : Value → Value → Prop
  | self {value} : Part value value
  | item {form items item part} (listed : item ∈ items) (below : Part item part)
    : Part (.array form items) part
  | member {members name inner part} (present : (name, inner) ∈ members) (below : Part inner part)
    : Part (.object members) part

namespace Schema

/-- Conformance by what fits the leaves of a schema is conformance by whatever else fits them where
parts of the document are concerned, by induction on the conformance. -/
theorem ConformsBy.imp {fits others : RegistryId → Leaf → Value → Prop} {schema : Schema}
    {document : Value} (conforms : schema.ConformsBy fits document)
    (implied
      : ∀ registry leaf part,
          schema.Contains (.leaf registry leaf)
          → document.Part part
          → fits registry leaf part
          → others registry leaf part)
    : schema.ConformsBy others document := by
  induction conforms with
  | leaf conforms => exact .leaf (implied _ _ _ .refl .self conforms)
  | array least greatest _ ih =>
      refine .array least greatest fun item listed => ih item listed ?_
      exact fun registry leaf part contains below =>
        implied registry leaf part (.head .items contains) (.item listed below)
  | object _ required _ _ denied declared patterns additional =>
      refine .object ?_ required ?_ ?_ denied
      · intro label child value entry present
        refine declared label child value entry present fun registry leaf part contains below => ?_
        have listed := Value.mem_of_member? present
        exact implied registry leaf part (.head (.property entry) contains) (.member listed below)
      · intro pattern child name value entry present hit
        refine patterns pattern child name value entry present hit
          fun registry leaf part contains below => ?_
        exact implied registry leaf part (.head (.pattern entry) contains) (.member present below)
      · intro child name value given present uncovered
        refine additional child name value given present uncovered
          fun registry leaf part contains below => ?_
        have held := congrArg Additional.schema? given
        exact implied registry leaf part (.head (.additional held) contains) (.member present below)

end Schema

-----------------------------------------------------------------------------------------
-- Nodes of a store
-----------------------------------------------------------------------------------------

namespace Store

end Store

end Assay

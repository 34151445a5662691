import Assay.Proofs.Leaf.Assignment
import Mathlib

/-! Assignments to different fields of a leaf. Apart from the type, whether a field takes a value
depends on the type alone and nothing but the field is changed, so that such fields can be assigned
in any order.
-/

namespace Assay.Leaf

variable {formats : FormatRegistry} {leaf base after : Leaf} {field : LeafField} {value : Value}

-----------------------------------------------------------------------------------------
-- One field
-----------------------------------------------------------------------------------------

/-- A leaf with one of its fields as another leaf has it. -/
def withField (leaf other : Leaf)
    : LeafField → Leaf
  | .type => { leaf with type := other.type }
  | .pattern => { leaf with pattern := other.pattern }
  | .format => { leaf with format := other.format }
  | .minLength => { leaf with minLength := other.minLength }
  | .maxLength => { leaf with maxLength := other.maxLength }
  | .minimum => { leaf with minimum := other.minimum }
  | .maximum => { leaf with maximum := other.maximum }
  | .exclusiveMinimum => { leaf with exclusiveMinimum := other.exclusiveMinimum }
  | .exclusiveMaximum => { leaf with exclusiveMaximum := other.exclusiveMaximum }
  | .enumeration => { leaf with enumeration := other.enumeration }

/-- Different fields are taken over in either order. -/
theorem withField_comm {first second : LeafField} (different : first ≠ second) (one two : Leaf)
    : (leaf.withField one first).withField two second
      = (leaf.withField two second).withField one first := by
  cases first <;> cases second <;> first | rfl | exact absurd rfl different

theorem type_withField (other : field ≠ .type)
    : (leaf.withField base field).type = leaf.type := by
  cases field <;> first | rfl | exact absurd rfl other

/-- A field other than the type takes the same values in all leaves of a type, and is the only one
that is changed. -/
theorem assign_eq_map (other : field ≠ .type) (same : leaf.type = base.type)
    : leaf.assign formats field value
      = (base.assign formats field value).map (leaf.withField · field) := by
  obtain ⟨type, pattern, format, minLength, maxLength, minimum, maximum, exclusiveMinimum,
    exclusiveMaximum, enumeration⟩ := base
  obtain rfl : leaf.type = type := same
  cases field with
  | type => exact absurd rfl other
  | pattern =>
      simp only [assign, setPattern, textsOnly]
      split
      · rfl
      · split
        · simp only [ok_bind]
          split
          · cases readPattern _ _ <;> rfl
          · rfl
          · rfl
        · rfl
  | format =>
      simp only [assign, setFormat]
      split
      · rfl
      · split
        · split <;> rfl
        · rfl
        · rfl
  | minLength | maxLength =>
      change (leaf.length? _ value >>= _) = Except.map _ (leaf.length? _ value >>= _)
      cases leaf.length? _ value <;> rfl
  | minimum | maximum =>
      change (leaf.bound? _ value >>= _) = Except.map _ (leaf.bound? _ value >>= _)
      cases leaf.bound? _ value <;> rfl
  | exclusiveMinimum | exclusiveMaximum =>
      simp only [assign, numbersOnly]
      split
      · cases flagOf value <;> rfl
      · rfl
  | enumeration =>
      simp only [assign, setEnumeration]
      split
      · rfl
      · split
        · rfl
        · rfl
        · split <;> rfl

theorem eq_withField_of_assign (other : field ≠ .type)
    (assigned : leaf.assign formats field value = .ok after)
    : after = leaf.withField after field := by
  have kept : leaf.assign formats field value
      = (leaf.assign formats field value).map (leaf.withField · field) := assign_eq_map other rfl
  rw [assigned] at kept
  exact Except.ok.inj kept

-----------------------------------------------------------------------------------------
-- Fields in any order
-----------------------------------------------------------------------------------------

/-- Two assignments to different fields succeed where each of them does by itself, and each changes
its own field. -/
theorem assign_assign_eq_ok_iff {first second : LeafField} {one two : Value}
    (firstOther : first ≠ .type) (secondOther : second ≠ .type)
    : (leaf.assign formats first one >>= fun leaf => leaf.assign formats second two) = .ok after
      ↔ ∃ left right,
          leaf.assign formats first one = .ok left
          ∧ leaf.assign formats second two = .ok right
          ∧ after = (leaf.withField left first).withField right second := by
  rw [bind_eq_ok_iff]
  refine exists_congr fun left => ?_
  rw [exists_and_left]
  refine and_congr_right fun assigned => ?_
  have changed := eq_withField_of_assign firstOther assigned
  have typed : left.type = leaf.type := by rw [changed, type_withField firstOther]
  rw [assign_eq_map secondOther typed, ← changed]
  cases leaf.assign formats second two <;> simp [Except.map, eq_comm]

theorem assign_assign_comm {first second : LeafField} {one two : Value}
    (firstOther : first ≠ .type) (secondOther : second ≠ .type) (different : first ≠ second)
    : (leaf.assign formats first one >>= fun leaf => leaf.assign formats second two) = .ok after
      ↔ (leaf.assign formats second two >>= fun leaf => leaf.assign formats first one)
        = .ok after := by
  rw [assign_assign_eq_ok_iff firstOther secondOther,
    assign_assign_eq_ok_iff secondOther firstOther]
  constructor
  · rintro ⟨left, right, first, second, rfl⟩
    exact ⟨right, left, second, first, withField_comm different left right⟩
  · rintro ⟨right, left, second, first, rfl⟩
    exact ⟨left, right, first, second, withField_comm different.symm right left⟩

@[simp]
theorem assignAll_singleton (setting : LeafField × Value)
    : leaf.assignAll formats [setting] = leaf.assign formats setting.1 setting.2 :=
  bind_pure _

theorem assignAll_append (first second : List (LeafField × Value))
    : leaf.assignAll formats (first ++ second)
      = leaf.assignAll formats first >>= fun leaf => leaf.assignAll formats second := by
  induction first generalizing leaf with
  | nil => rfl
  | cons setting rest ih => simp only [List.cons_append, assignAll, ih, bind_assoc]

/-- The fields that are assigned are different ones, and the type is not among them. -/
def Independent (order : List (LeafField × Value))
    : Prop :=
  (order.map (·.1)).Nodup ∧ .type ∉ order.map (·.1)

theorem Independent.of_cons {setting : LeafField × Value} {rest : List (LeafField × Value)}
    (independent : Independent (setting :: rest))
    : Independent rest :=
  ⟨(List.nodup_cons.mp independent.1).2, fun typed => independent.2 (List.mem_cons_of_mem _ typed)⟩

theorem Independent.perm {order other : List (LeafField × Value)} (permuted : order.Perm other)
    (independent : Independent order)
    : Independent other :=
  ⟨(permuted.map _).nodup_iff.mp independent.1,
    fun typed => independent.2 ((permuted.map _).mem_iff.mpr typed)⟩

/-- Assignments to different fields can be made in any order: they all succeed in one order if they
do in another one, and end in the same leaf. By induction on how one order is made of the other:
neighbours can be exchanged. -/
theorem assignAll_eq_ok_iff_of_perm {order other : List (LeafField × Value)}
    (permuted : order.Perm other) (independent : Independent order)
    : leaf.assignAll formats order = .ok after ↔ leaf.assignAll formats other = .ok after := by
  induction permuted generalizing leaf with
  | nil => rfl
  | cons setting _ ih =>
      simp only [assignAll, bind_eq_ok_iff]
      exact exists_congr fun between => and_congr_right fun _ => ih independent.of_cons
  | swap second first rest =>
      obtain ⟨distinct, untyped⟩ := independent
      simp only [List.map_cons, List.nodup_cons, List.mem_cons, not_or] at distinct untyped
      simp only [assignAll, ← bind_assoc]
      rw [bind_eq_ok_iff, bind_eq_ok_iff]
      refine exists_congr fun between => and_congr_left fun _ => ?_
      exact assign_assign_comm (Ne.symm untyped.1) (Ne.symm untyped.2.1) distinct.1.1
  | trans permuted _ before behind =>
      exact (before independent).trans (behind (independent.perm permuted))

end Assay.Leaf

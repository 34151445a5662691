import Assay.Proofs.Leaf.Assignment

/-! Leaves whose constraints go with their type. Every assignment keeps them so, whatever it is
given, and a leaf bound to the built-in formats judges arrays and objects by its type alone.
-/

namespace Assay

/-- A built-in format that goes with every type is none: what has no check lets everything pass. -/
theorem FormatRegistry.builtIn_check_of_any {name : String} {value : Value}
    (compatible : builtIn.isCompatible name .any)
    : builtIn.check name value = .ok true := by
  cases found : builtIn.get? name with
  | none => simp [check, found]
  | some format =>
      obtain ⟨before, after, same, -⟩ := List.lookup_eq_some_iff.mp found
      have listed : (name, format) ∈ builtIn.entries := by simp [same]
      have typed : ∀ entry ∈ builtIn.entries, SimpleType.any ∉ entry.2.types := by
        simp [builtIn]
      simp only [isCompatible, applicableTypes, found, List.contains_iff_mem] at compatible
      exact absurd compatible (typed _ listed)

namespace Leaf

variable {formats : FormatRegistry} {leaf after : Leaf} {value : Value}

-----------------------------------------------------------------------------------------
-- What any assignment leaves behind
-----------------------------------------------------------------------------------------

/-- Everything that is set on a leaf goes with its type. -/
def Consistent (formats : FormatRegistry) (leaf : Leaf)
    : Prop :=
  leaf.Fits formats leaf.type

/-- A pattern that is set stands on a leaf of texts, even if it is none that can be read. -/
theorem exists_of_setPattern (assigned : leaf.setPattern value = .ok after)
    : ∃ pattern, (pattern.isSome → leaf.type = .string) ∧ after = { leaf with pattern } := by
  unfold setPattern at assigned
  split at assigned
  · obtain rfl := pure_eq_ok_iff.mp assigned
    exact ⟨none, nofun, rfl⟩
  · obtain ⟨_, texts, assigned⟩ := bind_eq_ok_iff.mp assigned
    have string := textsOnly_eq_ok_iff.mp texts
    split at assigned
    · simp only [bind_eq_ok_iff, pure_eq_ok_iff] at assigned
      obtain ⟨pattern, -, _, -, rfl⟩ := assigned
      exact ⟨_, fun _ => string, rfl⟩
    · obtain rfl := pure_eq_ok_iff.mp assigned
      exact ⟨_, fun _ => string, rfl⟩
    · obtain rfl := pure_eq_ok_iff.mp assigned
      exact ⟨_, fun _ => string, rfl⟩

/-- A format that is set goes with the type, what is no name included. -/
theorem exists_of_setFormat (assigned : leaf.setFormat formats value = .ok after)
    : ∃ format,
        (∀ slot, format = some slot → slot.goesWith formats leaf.type)
        ∧ after = { leaf with format } := by
  unfold setFormat at assigned
  split at assigned
  · obtain rfl := Except.ok.inj assigned
    exact ⟨none, nofun, rfl⟩
  · split at assigned
    · rename_i label _
      split at assigned
      · rename_i compatible
        obtain rfl := Except.ok.inj assigned
        refine ⟨some (.proper label), ?_, rfl⟩
        rintro slot ⟨⟩
        exact compatible
      · cases assigned
    · cases assigned
    · obtain rfl := Except.ok.inj assigned
      refine ⟨some (.stray value), ?_, rfl⟩
      rintro slot ⟨⟩
      rfl

/-- An enumeration that is set goes with the type, whatever value has held its members. -/
theorem exists_of_setEnumeration (assigned : leaf.setEnumeration value = .ok after)
    : ∃ enumeration,
        (∀ members,
          enumeration = some members
          → leaf.type ≠ .null
            ∧ leaf.type ≠ .any
            ∧ ∀ member ∈ members, leaf.type.accepts member = .ok true)
        ∧ after = { leaf with enumeration } := by
  unfold setEnumeration at assigned
  split at assigned
  · obtain rfl := Except.ok.inj assigned
    exact ⟨none, nofun, rfl⟩
  · split at assigned
    · cases assigned
    · cases assigned
    · rename_i members _ _
      split at assigned
      · cases assigned
      · rename_i none
        obtain rfl := Except.ok.inj assigned
        refine ⟨some members, ?_, rfl⟩
        rintro _ ⟨⟩
        exact (enumerationRefusal_eq_none_iff leaf.type .enumeration members).mp none

theorem length_isSome {keyword : Keyword} {length : Option Nat}
    (read : leaf.length? keyword value = .ok length) (set : length.isSome)
    : leaf.type = .string := by
  rcases length_eq_ok_iff.mp read with ⟨-, rfl⟩ | ⟨limit, string, -, -⟩
  · cases set
  · exact string

theorem bound_isSome {keyword : Keyword} {bound : Option Number}
    (read : leaf.bound? keyword value = .ok bound) (set : bound.isSome)
    : leaf.type.isNumeric := by
  rcases bound_eq_ok_iff.mp read with ⟨-, rfl⟩ | ⟨limit, numeric, -, -⟩
  · cases set
  · exact numeric

-----------------------------------------------------------------------------------------
-- Consistency is kept
-----------------------------------------------------------------------------------------

theorem consistent_initial
    : ({} : Leaf).Consistent formats :=
  ⟨nofun, fun set => set.elim nofun nofun, nofun, nofun, nofun⟩

/-- An assignment that returns keeps a leaf consistent: it sets what goes with the type, or a type
that goes with what is set. -/
theorem consistent_of_assign {field : LeafField} (consistent : leaf.Consistent formats)
    (assigned : leaf.assign formats field value = .ok after)
    : after.Consistent formats := by
  obtain ⟨pattern, length, bound, format, enumeration⟩ := consistent
  simp only [hasBound, Bool.or_eq_true] at bound
  cases field with
  | type =>
      obtain ⟨type, -, fits, rfl⟩ := setType_eq_ok_iff.mp assigned
      exact ⟨fits.pattern, fits.length, fits.bound, fits.format, fits.enumeration⟩
  | pattern =>
      obtain ⟨other, string, rfl⟩ := exists_of_setPattern assigned
      exact ⟨string, length, by simpa [hasBound] using bound, format, enumeration⟩
  | format =>
      obtain ⟨other, goes, rfl⟩ := exists_of_setFormat assigned
      exact ⟨pattern, length, by simpa [hasBound] using bound, goes, enumeration⟩
  | enumeration =>
      obtain ⟨other, goes, rfl⟩ := exists_of_setEnumeration assigned
      exact ⟨pattern, length, by simpa [hasBound] using bound, format, goes⟩
  | minLength =>
      obtain ⟨limit, read, rfl⟩ := bind_pure_eq_ok_iff.mp assigned
      refine ⟨pattern, ?_, by simpa [hasBound] using bound, format, enumeration⟩
      exact fun set => set.elim (length_isSome read) fun set => length (.inr set)
  | maxLength =>
      obtain ⟨limit, read, rfl⟩ := bind_pure_eq_ok_iff.mp assigned
      refine ⟨pattern, ?_, by simpa [hasBound] using bound, format, enumeration⟩
      exact fun set => set.elim (fun set => length (.inl set)) (length_isSome read)
  | minimum =>
      obtain ⟨limit, read, rfl⟩ := bind_pure_eq_ok_iff.mp assigned
      refine ⟨pattern, length, fun set => ?_, format, enumeration⟩
      simp only [hasBound, Bool.or_eq_true] at set
      rcases set with ((here | other) | other) | other
      · exact bound_isSome read here
      · exact bound (.inl (.inl (.inr other)))
      · exact bound (.inl (.inr other))
      · exact bound (.inr other)
  | maximum =>
      obtain ⟨limit, read, rfl⟩ := bind_pure_eq_ok_iff.mp assigned
      refine ⟨pattern, length, fun set => ?_, format, enumeration⟩
      simp only [hasBound, Bool.or_eq_true] at set
      rcases set with ((other | here) | other) | other
      · exact bound (.inl (.inl (.inl other)))
      · exact bound_isSome read here
      · exact bound (.inl (.inr other))
      · exact bound (.inr other)
  | exclusiveMinimum | exclusiveMaximum =>
      obtain ⟨numeric, flag, -, rfl⟩ := flag_eq_ok_iff.mp assigned
      exact ⟨pattern, length, fun _ => numeric, format, enumeration⟩

theorem consistent_of_assignAll {fields : List (LeafField × Value)}
    (consistent : leaf.Consistent formats) (assigned : leaf.assignAll formats fields = .ok after)
    : after.Consistent formats := by
  induction fields generalizing leaf with
  | nil =>
      obtain rfl := Except.ok.inj assigned
      exact consistent
  | cons field rest ih =>
      rw [assignAll, bind_eq_ok_iff] at assigned
      obtain ⟨between, here, later⟩ := assigned
      exact ih (consistent_of_assign consistent here) later

/-- A new leaf is consistent, whatever fields it is given. -/
theorem consistent_of_ofFields {fields : List (LeafField × Value)}
    (made : ofFields formats fields = .ok leaf)
    : leaf.Consistent formats :=
  consistent_of_assignAll consistent_initial (assignGiven_eq_ok_iff.mp made)

-----------------------------------------------------------------------------------------
-- Arrays and objects under a leaf
-----------------------------------------------------------------------------------------

/-- A consistent leaf of the type of everything has nothing to check. -/
theorem complaint_eq_none_of_any (consistent : leaf.Consistent .builtIn) (any : leaf.type = .any)
    : leaf.complaint? .builtIn value = .ok none := by
  have free : leaf.enumeration = none := by
    refine Option.eq_none_iff_forall_ne_some.mpr fun members set => ?_
    exact (consistent.enumeration members set).2.1 any
  have passes : leaf.formatComplaint? .builtIn value = .ok none := by
    unfold formatComplaint?
    cases set : leaf.format with
    | none => rfl
    | some slot =>
        have goes := consistent.format slot set
        rw [any] at goes
        cases slot with
        | stray other => rfl
        | proper label =>
            simp only [Slot.passes, FormatRegistry.builtIn_check_of_any goes]
            rfl
  simp [complaint?, firstComplaint?, typeComplaint?, enumerationComplaint?, textComplaint?,
    numberComplaint?, SimpleType.accepts, SimpleType.isNumeric, any, free, passes, pure,
    Except.pure]

/-- A consistent leaf judges an array or an object by its type alone: every type but the one of
everything is wrong. -/
theorem complaint_of_container (consistent : leaf.Consistent .builtIn)
    (container : value.kind = .ok .array ∨ value.kind = .ok .object)
    : leaf.complaint? .builtIn value
      = .ok (if leaf.type = .any then none else some (.notOfType leaf.type)) := by
  by_cases any : leaf.type = .any
  · rw [if_pos any, complaint_eq_none_of_any consistent any]
  · have wrong : leaf.type.accepts value = .ok false := by
      rw [SimpleType.accepts, if_neg any]
      rcases container with array | object
      · rw [array]
        cases typed : leaf.type <;> first | rfl | exact absurd typed any
      · rw [object]
        cases typed : leaf.type <;> first | rfl | exact absurd typed any
    simp [complaint?, firstComplaint?, typeComplaint?, wrong, any, pure, Except.pure]

end Leaf

end Assay

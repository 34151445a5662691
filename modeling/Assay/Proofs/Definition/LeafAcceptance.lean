import Assay.Proofs.Definition.WellFormed

/-! When a definition is given a leaf: its keywords are assigned to a leaf of its type one after the
other, and each of them succeeds or not by itself.
-/

namespace Assay.Definition
open Assembly

variable {β : Type} {setting : Setting} {members : Members} {keyword : Keyword}
  {leaf after : Leaf} {type : SimpleType}

/-- A field other than the type is assigned without touching the type. -/
theorem type_of_assign {field : LeafField} (other : field ≠ .type) {value : Value}
    (assigned : leaf.assign setting.formats field value = .ok after)
    : after.type = leaf.type := by
  cases field with
  | type => exact absurd rfl other
  | pattern =>
      simp only [Leaf.assign, Leaf.setPattern] at assigned
      split at assigned
      · obtain rfl := pure_eq_ok_iff.mp assigned
        rfl
      · obtain ⟨-, -, assigned⟩ := bind_eq_ok_iff.mp assigned
        -- Whatever the value is read as, it ends up in the one field.
        split at assigned <;>
          · simp only [bind_eq_ok_iff, pure_eq_ok_iff] at assigned
            grind
  | format =>
      simp only [Leaf.assign, Leaf.setFormat] at assigned
      grind
  | enumeration =>
      simp only [Leaf.assign, Leaf.setEnumeration] at assigned
      grind
  | minLength | maxLength | minimum | maximum =>
      obtain ⟨content, -, same⟩ := bind_eq_ok_iff.mp assigned
      obtain rfl := pure_eq_ok_iff.mp same
      rfl
  | exclusiveMinimum | exclusiveMaximum =>
      obtain ⟨-, flag, -, rfl⟩ := Leaf.flag_eq_ok_iff.mp assigned
      rfl

/-- Assigning a keyword to a leaf of a type and going on succeeds in two parts, since what comes
behind is given a leaf of the type again. -/
theorem assignKeyword_then_iff (typed : leaf.type = type) {field : LeafField}
    (other : field ≠ .type) {expected : Value → Bool} {refusal : Keyword → Value → Refusal}
    {next : Leaf → Assembly β} {first rest : Prop}
    (here : (assignKeyword setting members keyword field expected refusal leaf).Succeeds ↔ first)
    (later : ∀ leaf : Leaf, leaf.type = type → ((next leaf).Succeeds ↔ rest))
    : (assignKeyword setting members keyword field expected refusal leaf >>= next).Succeeds
      ↔ first ∧ rest := by
  refine bind_succeeds_iff_of_kept _ (fun after built => ?_) here later
  rcases withKeyword_builds_iff.mp built with ⟨-, rfl⟩ | ⟨value, -, built⟩
  · exact typed
  · split at built
    · exact (type_of_assign other (assigned_builds_iff.mp built)).trans typed
    · exact absurd built not_refuse_builds

/-- A flag is assigned like any other keyword. -/
theorem assignFlag_then_iff (typed : leaf.type = type) {field : LeafField}
    (other : field ≠ .type) {next : Leaf → Assembly β} {first rest : Prop}
    (here : (assignFlag setting members keyword field leaf).Succeeds ↔ first)
    (later : ∀ leaf : Leaf, leaf.type = type → ((next leaf).Succeeds ↔ rest))
    : (assignFlag setting members keyword field leaf >>= next).Succeeds ↔ first ∧ rest := by
  refine bind_succeeds_iff_of_kept _ (fun after built => ?_) here later
  rcases withKeyword_builds_iff.mp built with ⟨-, rfl⟩ | ⟨value, -, built⟩
  · exact typed
  · split at built
    · exact result_builds_iff.mp built ▸ typed
    · exact result_builds_iff.mp built ▸ typed
    · exact (type_of_assign other (assigned_builds_iff.mp built)).trans typed
    · exact absurd built not_refuse_builds

/-- A keyword is assigned where its value is one that is expected and that the field takes. -/
theorem assignKeyword_succeeds_iff {field : LeafField} {expected : Value → Bool}
    {refusal : Keyword → Value → Refusal} {fits : Value → Prop}
    (takes
      : ∀ value,
          (expected value ∧ ∃ after, leaf.assign setting.formats field value = .ok after)
          ↔ fits value)
    : (assignKeyword setting members keyword field expected refusal leaf).Succeeds
      ↔ Given members keyword fits := by
  unfold assignKeyword
  rw [withKeyword_succeeds_iff]
  refine given_congr fun value => ?_
  rw [← takes value]
  cases expected value <;> simp [assigned_succeeds_iff]

theorem pattern_succeeds_iff (typed : leaf.type = type)
    : (assignKeyword setting members .pattern .pattern isText .wrongType leaf).Succeeds
      ↔ Given members .pattern fun value => type = .string ∧ IsPattern value := by
  subst typed
  refine assignKeyword_succeeds_iff fun value => ?_
  constructor
  · rintro ⟨text, after, assigned⟩
    obtain ⟨label, found⟩ := label_of_isText text
    obtain ⟨string, pattern, compiled, -⟩ := (Leaf.setPattern_label_eq_ok_iff found).mp assigned
    exact ⟨string, label.word, pattern, text_eq_some_iff.mpr ⟨label, found, rfl⟩, compiled⟩
  · rintro ⟨string, source, pattern, reads, compiled⟩
    obtain ⟨label, found, rfl⟩ := text_eq_some_iff.mp reads
    exact ⟨Option.isSome_iff_exists.mpr ⟨_, reads⟩, _,
      (Leaf.setPattern_label_eq_ok_iff found).mpr ⟨string, pattern, compiled, rfl⟩⟩

/-- The check of a format's name and its assignment succeed together on the formats of a type. -/
theorem checkFormatName_succeeds_iff {value : Value}
    : (checkFormatName setting value).Succeeds
      ↔ ∀ name, value.text? = some name → setting.strictFormats
          → setting.formats.isRegistered name := by
  unfold checkFormatName
  cases value.text? with
  | none => simp
  | some name =>
      cases strict : setting.strictFormats with
      | false => simp
      | true => cases registered : setting.formats.isRegistered name <;> simp [registered]

theorem format_succeeds_iff (typed : leaf.type = type)
    : (assignKeyword setting members .format .format isText .wrongType leaf).Succeeds
      ↔ Given members .format fun value =>
          ∃ name, value.text? = some name ∧ setting.formats.isCompatible name type := by
  subst typed
  refine assignKeyword_succeeds_iff fun value => ?_
  constructor
  · rintro ⟨text, after, assigned⟩
    obtain ⟨label, found⟩ := label_of_isText text
    obtain ⟨compatible, -⟩ := (Leaf.setFormat_label_eq_ok_iff found).mp assigned
    exact ⟨label.word, text_eq_some_iff.mpr ⟨label, found, rfl⟩, compatible⟩
  · rintro ⟨name, reads, compatible⟩
    obtain ⟨label, found, rfl⟩ := text_eq_some_iff.mp reads
    exact ⟨Option.isSome_iff_exists.mpr ⟨_, reads⟩, _,
      (Leaf.setFormat_label_eq_ok_iff found).mpr ⟨compatible, rfl⟩⟩

theorem length_succeeds_iff (typed : leaf.type = type) {field : LeafField}
    (put : Option Nat → Leaf)
    (sets
      : ∀ value,
          leaf.assign setting.formats field value = do return put (← leaf.length? keyword value))
    : (assignKeyword setting members keyword field isInteger .notInteger leaf).Succeeds
      ↔ Given members keyword fun value => type = .string ∧ IsNatural value := by
  subst typed
  refine assignKeyword_succeeds_iff fun value => ?_
  simp only [sets, bind_pure_eq_ok_iff]
  constructor
  · rintro ⟨integer, after, length, read, -⟩
    rcases Leaf.length_eq_ok_iff.mp read with ⟨rfl, -⟩ | ⟨limit, string, rfl, -⟩
    · nomatch integer
    · exact ⟨string, limit, rfl⟩
  · rintro ⟨string, limit, rfl⟩
    exact ⟨rfl, _, _, Leaf.length_eq_ok_iff.mpr (Or.inr ⟨limit, string, rfl, rfl⟩), rfl⟩

theorem bound_succeeds_iff (typed : leaf.type = type) {field : LeafField}
    (put : Option Number → Leaf)
    (sets
      : ∀ value,
          leaf.assign setting.formats field value = do return put (← leaf.bound? keyword value))
    : (assignKeyword setting members keyword field isNumber .notNumber leaf).Succeeds
      ↔ Given members keyword fun value => type.isNumeric ∧ IsNumber value := by
  subst typed
  refine assignKeyword_succeeds_iff fun value => ?_
  simp only [sets, bind_pure_eq_ok_iff]
  constructor
  · rintro ⟨number, after, bound, read, -⟩
    rcases Leaf.bound_eq_ok_iff.mp read with ⟨rfl, -⟩ | ⟨limit, numeric, rfl, -⟩
    · nomatch number
    · exact ⟨numeric, limit, rfl, by simpa [isNumber] using number⟩
  · rintro ⟨numeric, limit, rfl, real⟩
    exact ⟨by simpa [isNumber] using real, _, _,
      Leaf.bound_eq_ok_iff.mpr (Or.inr ⟨limit, numeric, rfl, rfl⟩), rfl⟩

theorem enumeration_succeeds_iff (typed : leaf.type = type)
    : (assignKeyword setting members .enumeration .enumeration isList .wrongType leaf).Succeeds
      ↔ Given members .enumeration fun value =>
          ∃ allowed, value = .list allowed ∧ type.Enumerates allowed := by
  subst typed
  refine assignKeyword_succeeds_iff fun value => ?_
  constructor
  · rintro ⟨list, after, assigned⟩
    cases value with
    | array form allowed =>
        cases form with
        | list =>
            obtain ⟨enumerates, -⟩ := Leaf.setEnumeration_array_eq_ok_iff.mp assigned
            exact ⟨allowed, rfl, enumerates⟩
        | tuple => nomatch list
    | _ => nomatch list
  · rintro ⟨allowed, rfl, enumerates⟩
    exact ⟨rfl, _, Leaf.setEnumeration_array_eq_ok_iff.mpr ⟨enumerates, rfl⟩⟩

theorem flag_succeeds_iff (typed : leaf.type = type) {field : LeafField} (put : Leaf)
    (sets
      : leaf.assign setting.formats field (.bool true) = do
          leaf.numbersOnly keyword
          return put)
    : (assignFlag setting members keyword field leaf).Succeeds
      ↔ Given members keyword (IsFlag type) := by
  subst typed
  unfold assignFlag
  rw [withKeyword_succeeds_iff]
  refine given_congr fun value => ?_
  unfold IsFlag
  split
  · simp
  · simp
  · simp only [assigned_succeeds_iff, sets, bind_eq_ok_iff, pure_eq_ok_iff,
      Leaf.numbersOnly_eq_ok_iff]
    simp
  · rename_i null denied set
    refine iff_of_false not_refuse_succeeds ?_
    rintro (rfl | rfl | ⟨rfl, -⟩)
    · exact null rfl
    · exact denied rfl
    · exact set rfl

/-- A definition with a simple type is given a leaf where its keywords are those of a leaf. Each
keyword is assigned to a leaf of that type, whatever it has been given before. -/
theorem leafOf_succeeds_iff {stated : Value} (typed : stated.text? = some type.word)
    : (leafOf setting members stated).Succeeds ↔ LeafFormed setting members type := by
  have steps
      : (leafOf setting members stated).Succeeds
        ↔ True
          ∧ (Given members .pattern fun value => type = .string ∧ IsPattern value)
          ∧ (Given members .format fun value => (checkFormatName setting value).Succeeds)
          ∧ (Given members .format fun value =>
              ∃ name, value.text? = some name ∧ setting.formats.isCompatible name type)
          ∧ (Given members .minLength fun value => type = .string ∧ IsNatural value)
          ∧ (Given members .maxLength fun value => type = .string ∧ IsNatural value)
          ∧ (Given members .minimum fun value => type.isNumeric ∧ IsNumber value)
          ∧ (Given members .maximum fun value => type.isNumeric ∧ IsNumber value)
          ∧ Given members .exclusiveMinimum (IsFlag type)
          ∧ Given members .exclusiveMaximum (IsFlag type)
          ∧ Given members .enumeration fun value =>
              ∃ allowed, value = .list allowed ∧ type.Enumerates allowed := by
    have made : Leaf.ofFields setting.formats [(.type, stated)] = .ok { type } :=
      ofFields_type_eq_ok_iff.mpr ⟨type, typed, rfl⟩
    refine bind_succeeds_iff_of_kept (fun leaf => leaf.type = type) ?_
      (iff_true_intro (assigned_succeeds_iff.mpr ⟨_, made⟩)) fun leaf typed => ?_
    · intro leaf built
      obtain rfl := Except.ok.inj (made.symm.trans (assigned_builds_iff.mp built))
      rfl
    refine assignKeyword_then_iff typed (by decide) (pattern_succeeds_iff typed)
      fun leaf typed => ?_
    refine bind_succeeds_iff_and withKeyword_succeeds_iff fun _ => ?_
    refine assignKeyword_then_iff typed (by decide) (format_succeeds_iff typed) fun leaf typed => ?_
    refine assignKeyword_then_iff typed (by decide) (length_succeeds_iff typed _ fun _ => rfl)
      fun leaf typed => ?_
    refine assignKeyword_then_iff typed (by decide) (length_succeeds_iff typed _ fun _ => rfl)
      fun leaf typed => ?_
    refine assignKeyword_then_iff typed (by decide) (bound_succeeds_iff typed _ fun _ => rfl)
      fun leaf typed => ?_
    refine assignKeyword_then_iff typed (by decide) (bound_succeeds_iff typed _ fun _ => rfl)
      fun leaf typed => ?_
    refine assignFlag_then_iff typed (by decide) (flag_succeeds_iff typed _ rfl)
      fun leaf typed => ?_
    refine assignFlag_then_iff typed (by decide) (flag_succeeds_iff typed _ rfl)
      fun leaf typed => ?_
    exact enumeration_succeeds_iff typed
  rw [steps]
  constructor
  · rintro ⟨-, pattern, registered, compatible, minLength, maxLength, minimum, maximum,
      exclusiveMinimum, exclusiveMaximum, enumeration⟩
    refine ⟨pattern, fun value present => ?_, minLength, maxLength, minimum, maximum,
      exclusiveMinimum, exclusiveMaximum, enumeration⟩
    obtain ⟨name, reads, fits⟩ := compatible value present
    exact ⟨name, reads, checkFormatName_succeeds_iff.mp (registered value present) name reads, fits⟩
  · rintro ⟨pattern, format, minLength, maxLength, minimum, maximum, exclusiveMinimum,
      exclusiveMaximum, enumeration⟩
    refine ⟨trivial, pattern, fun value present => ?_, fun value present => ?_, minLength,
      maxLength, minimum, maximum, exclusiveMinimum, exclusiveMaximum, enumeration⟩
    · obtain ⟨name, reads, registered, -⟩ := format value present
      refine checkFormatName_succeeds_iff.mpr fun other reads' strict => ?_
      obtain rfl := Option.some.inj (reads.symm.trans reads')
      exact registered strict
    · obtain ⟨name, reads, -, fits⟩ := format value present
      exact ⟨name, reads, fits⟩

end Assay.Definition

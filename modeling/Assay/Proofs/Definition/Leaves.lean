import Assay.Proofs.Definition.Outcomes
import Assay.Proofs.Leaf.Assignment

/-! Leaves as readings of their definitions: each field of a leaf that has been built holds what the
keyword says, and is not set where the keyword is absent.
-/

namespace Assay.Definition
open Assembly

variable {setting : Setting} {members : Members} {leaf after : Leaf}

-----------------------------------------------------------------------------------------
-- Readings
-----------------------------------------------------------------------------------------

/-- The word for the type that a definition states, or for the type of everything. -/
def typeWord? (members : Members)
    : Option String :=
  match value? members .type with
  | some value => value.text?
  | none => some SimpleType.any.word

/-- Whether a definition sets a flag. -/
def isSet (members : Members) (keyword : Keyword)
    : Bool :=
  match value? members keyword with
  | some (.bool flag) => flag
  | _ => false

/-- The fields of a leaf hold what a definition says. Constraints of texts are on leaves of texts,
and bounds on leaves of numbers. -/
structure LeafReads (members : Members) (leaf : Leaf) : Prop where
  type : typeWord? members = some leaf.type.word
  pattern
    : Option.Rel
        (fun value slot =>
          leaf.type = .string
          ∧ ∃ label pattern,
              Label.ofValue? value = some label
              ∧ Pattern.compile label.word = .ok pattern
              ∧ slot = .proper ⟨label, pattern⟩)
        (value? members .pattern) leaf.pattern
  format
    : Option.Rel
        (fun value slot => ∃ label, Label.ofValue? value = some label ∧ slot = .proper label)
        (value? members .format) leaf.format
  minLength
    : Option.Rel (fun value limit => leaf.type = .string ∧ value = .int (Int.ofNat limit))
        (value? members .minLength) leaf.minLength
  maxLength
    : Option.Rel (fun value limit => leaf.type = .string ∧ value = .int (Int.ofNat limit))
        (value? members .maxLength) leaf.maxLength
  minimum
    : Option.Rel
        (fun value bound => leaf.type.isNumeric ∧ value = .number bound ∧ ¬bound.isComplex)
        (value? members .minimum) leaf.minimum
  maximum
    : Option.Rel
        (fun value bound => leaf.type.isNumeric ∧ value = .number bound ∧ ¬bound.isComplex)
        (value? members .maximum) leaf.maximum
  exclusiveMinimum : leaf.exclusiveMinimum = isSet members .exclusiveMinimum
  exclusiveMaximum : leaf.exclusiveMaximum = isSet members .exclusiveMaximum
  enumeration
    : Option.Rel (fun value allowed => value = .list allowed)
        (value? members .enumeration) leaf.enumeration

-----------------------------------------------------------------------------------------
-- Each keyword of a leaf
-----------------------------------------------------------------------------------------

theorem label_of_isText {value : Value} (text : isText value)
    : ∃ label, Label.ofValue? value = some label := by
  obtain ⟨word, text⟩ := Option.isSome_iff_exists.mp text
  rw [← Label.word_ofValue?] at text
  obtain ⟨label, found, -⟩ := Option.map_eq_some_iff.mp text
  exact ⟨label, found⟩

/-- A value reads as a text exactly if it is a label of that text. -/
theorem text_eq_some_iff {value : Value} {word : String}
    : value.text? = some word ↔ ∃ label, Label.ofValue? value = some label ∧ label.word = word := by
  rw [← Label.word_ofValue?, Option.map_eq_some_iff]

/-- A keyword that is present is assigned to its field, and one that is absent leaves the field
unset. -/
theorem field_of_keyword {γ : Type} {keyword : Keyword} {field : LeafField}
    {expected : Value → Bool} {refusal : Keyword → Value → Refusal} {reads : Value → γ → Prop}
    (put : Option γ → Leaf) (keeps : put none = leaf)
    (sets
      : ∀ value after,
          expected value
          → leaf.assign setting.formats field value = .ok after
          → ∃ content, reads value content ∧ after = put (some content))
    (built : (assignKeyword setting members keyword field expected refusal leaf).Builds after)
    : ∃ content, Option.Rel reads (value? members keyword) content ∧ after = put content := by
  rcases withKeyword_builds_iff.mp built with ⟨absent, rfl⟩ | ⟨value, present, built⟩
  · exact ⟨none, absent ▸ .none, keeps.symm⟩
  · split at built
    · rename_i fits
      obtain ⟨content, read, rfl⟩ := sets value after fits (assigned_builds_iff.mp built)
      exact ⟨some content, present ▸ .some read, rfl⟩
    · exact absurd built not_refuse_builds

theorem pattern_of_keyword (unset : leaf.pattern = none)
    (built
      : (assignKeyword setting members .pattern .pattern isText .wrongType leaf).Builds after)
    : ∃ pattern,
        Option.Rel
          (fun value slot =>
            leaf.type = .string
            ∧ ∃ label pattern,
                Label.ofValue? value = some label
                ∧ Pattern.compile label.word = .ok pattern
                ∧ slot = .proper ⟨label, pattern⟩)
          (value? members .pattern) pattern
        ∧ after = { leaf with pattern } := by
  refine field_of_keyword (fun pattern => { leaf with pattern }) (by rw [← unset]) ?_ built
  intro value after text assigned
  obtain ⟨label, found⟩ := label_of_isText text
  obtain ⟨string, pattern, compiled, rfl⟩ := (Leaf.setPattern_label_eq_ok_iff found).mp assigned
  exact ⟨.proper ⟨label, pattern⟩, ⟨string, label, pattern, found, compiled, rfl⟩, rfl⟩

theorem format_of_keyword (unset : leaf.format = none)
    (built : (assignKeyword setting members .format .format isText .wrongType leaf).Builds after)
    : ∃ format,
        Option.Rel
          (fun value slot => ∃ label, Label.ofValue? value = some label ∧ slot = .proper label)
          (value? members .format) format
        ∧ after = { leaf with format } := by
  refine field_of_keyword (fun format => { leaf with format }) (by rw [← unset]) ?_ built
  intro value after text assigned
  obtain ⟨label, found⟩ := label_of_isText text
  obtain ⟨-, rfl⟩ := (Leaf.setFormat_label_eq_ok_iff found).mp assigned
  exact ⟨.proper label, ⟨label, found, rfl⟩, rfl⟩

theorem enumeration_of_keyword (unset : leaf.enumeration = none)
    (built
      : (assignKeyword setting members .enumeration .enumeration isList .wrongType leaf).Builds
          after)
    : ∃ enumeration,
        Option.Rel (fun value allowed => value = .list allowed)
          (value? members .enumeration) enumeration
        ∧ after = { leaf with enumeration } := by
  refine field_of_keyword (fun enumeration => { leaf with enumeration }) (by rw [← unset]) ?_ built
  intro value after list assigned
  cases value with
  | array form allowed =>
      cases form with
      | list =>
          obtain ⟨-, rfl⟩ := Leaf.setEnumeration_array_eq_ok_iff.mp assigned
          exact ⟨allowed, rfl, rfl⟩
      | tuple => nomatch list
  | _ => nomatch list

theorem length_of_keyword {keyword : Keyword} {field : LeafField} (put : Option Nat → Leaf)
    (keeps : put none = leaf)
    (sets
      : ∀ value,
          leaf.assign setting.formats field value = do return put (← leaf.length? keyword value))
    (built
      : (assignKeyword setting members keyword field isInteger .notInteger leaf).Builds after)
    : ∃ length,
        Option.Rel (fun value limit => leaf.type = .string ∧ value = .int (Int.ofNat limit))
          (value? members keyword) length
        ∧ after = put length := by
  refine field_of_keyword put keeps (fun value after integer assigned => ?_) built
  rw [sets, bind_eq_ok_iff] at assigned
  obtain ⟨length, read, same⟩ := assigned
  obtain rfl := pure_eq_ok_iff.mp same
  rcases Leaf.length_eq_ok_iff.mp read with ⟨rfl, -⟩ | ⟨limit, string, rfl, rfl⟩
  · nomatch integer
  · exact ⟨limit, ⟨string, rfl⟩, rfl⟩

theorem bound_of_keyword {keyword : Keyword} {field : LeafField} (put : Option Number → Leaf)
    (keeps : put none = leaf)
    (sets
      : ∀ value,
          leaf.assign setting.formats field value = do return put (← leaf.bound? keyword value))
    (built : (assignKeyword setting members keyword field isNumber .notNumber leaf).Builds after)
    : ∃ bound,
        Option.Rel
          (fun value bound => leaf.type.isNumeric ∧ value = .number bound ∧ ¬bound.isComplex)
          (value? members keyword) bound
        ∧ after = put bound := by
  refine field_of_keyword put keeps (fun value after number assigned => ?_) built
  rw [sets, bind_eq_ok_iff] at assigned
  obtain ⟨bound, read, same⟩ := assigned
  obtain rfl := pure_eq_ok_iff.mp same
  rcases Leaf.bound_eq_ok_iff.mp read with ⟨rfl, -⟩ | ⟨limit, numeric, rfl, rfl⟩
  · nomatch number
  · exact ⟨limit, ⟨numeric, rfl, by simpa [isNumber] using number⟩, rfl⟩

/-- A flag is set if the definition sets it, and is left alone otherwise. -/
theorem flag_of_keyword {keyword : Keyword} {field : LeafField} (put : Bool → Leaf)
    (keeps : put false = leaf)
    (sets
      : leaf.assign setting.formats field (.bool true) = do
          leaf.numbersOnly keyword
          return put true)
    (built : (assignFlag setting members keyword field leaf).Builds after)
    : after = put (isSet members keyword) := by
  unfold isSet
  rcases withKeyword_builds_iff.mp built with ⟨absent, rfl⟩ | ⟨value, present, built⟩
  · rw [absent, keeps]
  · rw [present]
    split at built
    · obtain rfl := result_builds_iff.mp built
      exact keeps.symm
    · obtain rfl := result_builds_iff.mp built
      exact keeps.symm
    · rw [assigned_builds_iff, sets, bind_eq_ok_iff] at built
      obtain ⟨-, -, same⟩ := built
      exact (pure_eq_ok_iff.mp same).symm
    · exact absurd built not_refuse_builds

-----------------------------------------------------------------------------------------
-- The leaf of a definition
-----------------------------------------------------------------------------------------

/-- A new leaf that is given its type alone has that type and nothing else. -/
theorem ofFields_type_eq_ok_iff {formats : FormatRegistry} {value : Value}
    : Leaf.ofFields formats [(.type, value)] = .ok leaf
      ↔ ∃ type : SimpleType, value.text? = some type.word ∧ leaf = { type } := by
  have given : Leaf.ofFields formats [(.type, value)]
      = (({} : Leaf).setType formats value >>= fun leaf => .ok leaf) := rfl
  have fits : ∀ type, ({} : Leaf).Fits formats type := fun type =>
    ⟨nofun, fun set => set.elim nofun nofun, nofun, nofun, nofun⟩
  simp only [given, bind_eq_ok_iff, Except.ok.injEq, exists_eq_right, Leaf.setType_eq_ok_iff, fits,
    true_and]

/-- What a leaf that has been built holds is what its definition says. -/
theorem leafOf_reads {type : Value} (built : (leafOf setting members type).Builds leaf)
    (stated : typeWord? members = type.text?)
    : LeafReads members leaf := by
  simp only [leafOf, bind_builds_iff] at built
  obtain ⟨_, typed, _, withPattern, -, -, _, withFormat, _, withMinLength, _, withMaxLength, _,
    withMinimum, _, withMaximum, _, withMinFlag, _, withMaxFlag, withEnumeration⟩ := built
  obtain ⟨type, named, rfl⟩ := ofFields_type_eq_ok_iff.mp (assigned_builds_iff.mp typed)
  obtain ⟨pattern, readPattern, rfl⟩ := pattern_of_keyword rfl withPattern
  obtain ⟨format, readFormat, rfl⟩ := format_of_keyword rfl withFormat
  obtain ⟨minLength, readMinLength, rfl⟩ := length_of_keyword
    (fun minLength => { type, pattern, format, minLength }) rfl (fun _ => rfl) withMinLength
  obtain ⟨maxLength, readMaxLength, rfl⟩ := length_of_keyword
    (fun maxLength => { type, pattern, format, minLength, maxLength }) rfl (fun _ => rfl)
    withMaxLength
  obtain ⟨minimum, readMinimum, rfl⟩ := bound_of_keyword
    (fun minimum => { type, pattern, format, minLength, maxLength, minimum }) rfl (fun _ => rfl)
    withMinimum
  obtain ⟨maximum, readMaximum, rfl⟩ := bound_of_keyword
    (fun maximum => { type, pattern, format, minLength, maxLength, minimum, maximum }) rfl
    (fun _ => rfl) withMaximum
  obtain rfl := flag_of_keyword
    (fun exclusiveMinimum =>
      { type, pattern, format, minLength, maxLength, minimum, maximum, exclusiveMinimum })
    rfl rfl withMinFlag
  obtain rfl := flag_of_keyword
    (fun exclusiveMaximum =>
      { type, pattern, format, minLength, maxLength, minimum, maximum,
        exclusiveMinimum := isSet members .exclusiveMinimum, exclusiveMaximum })
    rfl rfl withMaxFlag
  obtain ⟨enumeration, readEnumeration, rfl⟩ := enumeration_of_keyword rfl withEnumeration
  exact {
    type := stated.trans named
    pattern := readPattern
    format := readFormat
    minLength := readMinLength
    maxLength := readMaxLength
    minimum := readMinimum
    maximum := readMaximum
    exclusiveMinimum := rfl
    exclusiveMaximum := rfl
    enumeration := readEnumeration
  }

end Assay.Definition

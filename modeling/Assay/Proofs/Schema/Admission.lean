import Assay.Proofs.Leaf.Admission
import Assay.Proofs.Schema.Containers

/-! Which of the setters and mutators of arrays and objects can stop, whatever they are given: the
one of required names at what cannot be asked for the values that it holds, the declaration of a
member at a flag without a truth, and the one of patterns at a text that stops the reader. What is
no pattern is kept as one.
-/

namespace Assay
open Leaf (NeverStops)

variable {α : Type} {value : Value} {fault : Fault}

-----------------------------------------------------------------------------------------
-- Arrays
-----------------------------------------------------------------------------------------

namespace ArrayNode

variable {node : ArrayNode α}

theorem size_neverStops {keyword : Keyword}
    : NeverStops (size keyword value) := by
  unfold size
  split
  · exact .ok _
  · exact .refused _

theorem setItems_neverStops {items : Slot α}
    : NeverStops ((setItems items).made node) := by
  rw [setItems, Change.made_write]
  cases items with
  | proper child => exact .ok _
  | stray value => exact .refused _

theorem setMinItems_neverStops
    : NeverStops ((setMinItems value).made node) := by
  rw [setMinItems, Change.made_write]
  exact .bind size_neverStops fun size => .ok _

theorem setMaxItems_neverStops
    : NeverStops ((setMaxItems value).made node) := by
  rw [setMaxItems, Change.made_write]
  exact .bind size_neverStops fun size => .ok _

end ArrayNode

-----------------------------------------------------------------------------------------
-- Objects
-----------------------------------------------------------------------------------------

namespace ObjectNode

variable {node : ObjectNode α}

theorem entry_neverStops {keyword : Keyword} {schema : Slot α}
    : NeverStops (entry keyword schema) := by
  cases schema with
  | proper child => exact .ok _
  | stray value => exact .refused _

theorem newEntry_neverStops {schema : Slot α}
    : NeverStops (node.newEntry value schema) := by
  unfold newEntry
  split
  · exact .refused _
  · split
    · exact .refused _
    · exact .bind entry_neverStops fun child => .ok _

/-- A declaration stops at a flag that fails when it is asked for its truth, unless the member is
refused before. -/
theorem addProperty_eq_stopped_iff {schema : Slot α} {required : Value}
    : (addProperty value schema required).made node = .error (.stopped fault)
      ↔ (∃ entry, node.newEntry value schema = .ok entry) ∧ required.truth = .error fault := by
  rw [Change.made, addProperty_apply]
  cases fresh : node.newEntry value schema with
  | error failure =>
      cases failure with
      | refused refusal => simp
      | stopped fault => exact absurd fresh (newEntry_neverStops fault)
  | ok entry => cases asked : required.truth <;> simp [Leaf.flagOf, asked, Except.mapError]

theorem requiredNames_neverStops {names : List Label} {values : List Value}
    : NeverStops (requiredNames names values) := by
  induction values generalizing names with
  | nil => exact .ok _
  | cons value rest ih =>
      unfold requiredNames
      split
      · exact ih
      · exact .refused _

/-- Required names stop where the values give out with a fault, unless one that is no name is
refused before. -/
theorem setRequired_eq_stopped_iff
    : (setRequired value).made node = .error (.stopped fault)
      ↔ value.text? = none
        ∧ (∃ names, requiredNames [] value.iteration.1 = .ok names)
        ∧ value.iteration.2 = some fault := by
  rw [setRequired, Change.made_write]
  unfold requiredOf
  cases value.text? with
  | some text => simp
  | none =>
      obtain ⟨given, ending⟩ := value.iteration
      cases listed : requiredNames [] given with
      | error failure =>
          cases failure with
          | refused refusal => simp
          | stopped fault => exact absurd listed (requiredNames_neverStops fault)
      | ok names => cases ending <;> simp [throw, throwThe, MonadExceptOf.throw]

theorem additionalOf_neverStops {value : Slot α}
    : NeverStops (additionalOf value) := by
  unfold additionalOf
  split
  · exact .ok _
  · dsimp only
    split
    · exact .ok _
    · exact .ok _
    · exact .refused _

theorem setAdditional_neverStops {value : Slot α}
    : NeverStops ((setAdditional value).made node) := by
  intro fault stopped
  rw [Change.made, setAdditional_apply] at stopped
  cases said : additionalOf value with
  | ok additional =>
      rw [said] at stopped
      cases stopped
  | error failure =>
      rw [said] at stopped
      cases stopped
      exact additionalOf_neverStops fault said

-----------------------------------------------------------------------------------------
-- Patterns of members
-----------------------------------------------------------------------------------------

/-- A text is read as a pattern of members, is refused, or stops the reader. -/
theorem namePattern_of_label {label : Label} (text : Label.ofValue? value = some label)
    : namePattern value
      = do return .proper (← Leaf.readPattern (.badNamePattern label.word) label.word) := by
  have reads : value.text? = some label.word := by
    rw [← Label.word_ofValue?, text, Option.map_some]
  simp only [namePattern, reads]

/-- Whatever else members are to match is kept as it is, nothing included. -/
theorem namePattern_of_stray (other : value = .null ∨ ¬LeafField.pattern.Documents value)
    : namePattern value = .ok (.stray value) := by
  rcases other with rfl | other
  · rfl
  · unfold namePattern
    split
    · rename_i source reads
      rw [← Label.word_ofValue?, Option.map_eq_some_iff] at reads
      obtain ⟨label, text, -⟩ := reads
      exact absurd (Or.inr (Or.inl ⟨label, text⟩)) other
    · exact absurd (Or.inr (Or.inr ⟨_, rfl⟩)) other
    · rfl

/-- A pattern of members stops at a text that stops the reader. -/
theorem namePattern_eq_stopped_iff
    : namePattern value = .error (.stopped fault)
      ↔ ∃ label,
          Label.ofValue? value = some label
          ∧ Pattern.compile label.word = .error (.fault fault) := by
  cases text : Label.ofValue? value with
  | some label =>
      simp only [namePattern_of_label text, bind_eq_error_iff, Leaf.readPattern_eq_stopped_iff,
        Option.some.injEq, exists_eq_left']
      refine or_iff_left ?_
      rintro ⟨pattern, -, failed⟩
      nomatch failed
  | none =>
      refine iff_of_false (fun stopped => ?_) nofun
      unfold namePattern at stopped
      split at stopped
      · rename_i source reads
        rw [← Label.word_ofValue?, text] at reads
        nomatch reads
      · nomatch stopped
      · nomatch stopped

/-- What members are to match is a pattern if it is given as one, or as a text. -/
theorem givesPattern_of_namePattern {slot : Slot Pattern}
    (documented : ¬(value = .null ∨ ¬LeafField.pattern.Documents value))
    (read : namePattern value = .ok slot)
    : ∃ labelled, Leaf.GivesPattern value labelled ∧ slot = .proper labelled.pattern := by
  obtain ⟨given, documented⟩ := not_or.mp documented
  rcases not_not.mp documented with null | ⟨label, text⟩ | ⟨pattern, rfl⟩
  · exact absurd null given
  · rw [namePattern_of_label text] at read
    obtain ⟨pattern, compiled, rfl⟩ := bind_pure_eq_ok_iff.mp read
    exact ⟨⟨label, pattern⟩, .text text (Leaf.readPattern_eq_ok_iff.mp compiled), rfl⟩
  · obtain rfl := Except.ok.inj read
    exact ⟨_, .compiled, rfl⟩

/-- A node that is given a pattern of members and the schema for them keeps both behind the patterns
that it has. -/
inductive KeepsPattern (node : ObjectNode α) (value : Value) : Slot α → ObjectNode α → Prop
  | intro {labelled child} (gives : Leaf.GivesPattern value labelled)
    : node.KeepsPattern value (.proper child)
        { node with patterns := node.patterns ++ [(.proper labelled.pattern, child)] }

/-- What is given as a pattern of members is neither refused nor kept as a pattern. -/
inductive PatternEscapes (value : Value) : Slot α → Prop
  /-- A text stops the reader of patterns, for another reason than a defect of its own. -/
  | unreadable {schema label fault} (text : Label.ofValue? value = some label)
    (stops : Pattern.compile label.word = .error (.fault fault))
    : PatternEscapes value schema
  /-- What is neither a text nor a pattern is kept as it is, nothing included. -/
  | stray {child} (other : value = .null ∨ ¬LeafField.pattern.Documents value)
    : PatternEscapes value (.proper child)

variable {after : ObjectNode α} {schema : Slot α}

/-- A call that escapes stops, or what is no pattern is kept. -/
theorem outcome_of_patternEscapes (node : ObjectNode α) (escapes : PatternEscapes value schema)
    : (∃ fault, (addPattern value schema).made node = .error (.stopped fault))
      ∨ ∃ child,
          (value = .null ∨ ¬LeafField.pattern.Documents value)
          ∧ schema = .proper child
          ∧ (addPattern value schema).made node
            = .ok { node with patterns := node.patterns ++ [(.stray value, child)] } := by
  cases escapes with
  | @unreadable _ label fault text stops =>
      have stopped := namePattern_eq_stopped_iff.mpr ⟨label, text, stops⟩
      refine Or.inl ⟨fault, ?_⟩
      rw [addPattern, Change.made_write]
      exact bind_eq_error_iff.mpr (Or.inl stopped)
  | @stray child other =>
      refine Or.inr ⟨child, other, rfl, addPattern_eq_ok_iff.mpr ?_⟩
      exact ⟨_, _, namePattern_of_stray other, rfl, rfl⟩

theorem KeepsPattern.documented (keeps : node.KeepsPattern value schema after)
    : ¬(value = .null ∨ ¬LeafField.pattern.Documents value) := by
  cases keeps with
  | intro gives =>
      cases gives with
      | text text =>
          rintro (rfl | other)
          · nomatch text
          · exact other (Or.inr (Or.inl ⟨_, text⟩))
      | compiled =>
          rintro (null | other)
          · nomatch null
          · exact other (Or.inr (Or.inr ⟨_, rfl⟩))

theorem KeepsPattern.read (keeps : node.KeepsPattern value schema after)
    (read : ∀ entry ∈ node.patterns, ∃ pattern, entry.1 = .proper pattern)
    : ∀ entry ∈ after.patterns, ∃ pattern, entry.1 = .proper pattern := by
  cases keeps with
  | @intro labelled child gives =>
      intro entry listed
      rcases List.mem_append.mp listed with before | new
      · exact read entry before
      · obtain rfl := List.mem_singleton.mp new
        exact ⟨labelled.pattern, rfl⟩

/-- A pattern of members is refused or kept as one exactly if it does not escape. -/
theorem addPattern_honours_iff
    : Honours (node.KeepsPattern value schema) ((addPattern value schema).made node)
      ↔ ¬PatternEscapes value schema := by
  constructor
  · intro honours escapes
    rcases outcome_of_patternEscapes node escapes with ⟨fault, stopped⟩ | ⟨child, other, rfl, kept⟩
    · rw [stopped] at honours
      exact Honours.not_stopped honours
    · rw [kept, Honours.ok_iff] at honours
      exact honours.documented other
  · intro free
    refine .of_neverStops ?_ fun after added => ?_
    · rw [addPattern, Change.made_write]
      refine .bind (fun fault stopped => ?_) fun slot => .bind entry_neverStops fun child => .ok _
      obtain ⟨label, text, stops⟩ := namePattern_eq_stopped_iff.mp stopped
      exact free (.unreadable text stops)
    · obtain ⟨slot, child, read, rfl, rfl⟩ := addPattern_eq_ok_iff.mp added
      by_cases other : value = .null ∨ ¬LeafField.pattern.Documents value
      · exact absurd (.stray other) free
      · obtain ⟨labelled, gives, rfl⟩ := givesPattern_of_namePattern other read
        exact .intro gives

end ObjectNode

end Assay

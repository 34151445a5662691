import Assay.Proofs.Leaf.Assignment
import Assay.Proofs.Outcome
import Assay.Proofs.Schema.Distinct
import Assay.Schema.Container

/-! When the parts of arrays and objects can be assigned, and what the node is afterwards. Whatever
is assigned, the names of an object node stay distinct.
-/

namespace Assay

variable {α : Type}

-----------------------------------------------------------------------------------------
-- Arrays
-----------------------------------------------------------------------------------------

namespace ArrayNode

theorem size_eq_ok_iff {keyword : Keyword} {value : Value} {size : Nat}
    : ArrayNode.size keyword value = .ok size ↔ value = .int (Int.ofNat size) := by
  unfold ArrayNode.size
  split
  · rename_i given
    rw [Except.ok.injEq, Value.int, Value.number.injEq, Number.int.injEq, Int.ofNat.injEq]
  · rename_i other
    exact iff_of_false (by simp) (other size)

theorem setItems_eq_ok_iff {node after : ArrayNode α} {items : Slot α}
    : (setItems items).made node = .ok after
      ↔ ∃ child, items = .proper child ∧ after = { node with items := child } := by
  cases items with
  | proper child => simp [setItems, eq_comm]
  | stray value => simp [setItems]

theorem setMinItems_eq_ok_iff {node after : ArrayNode α} {value : Value}
    : (setMinItems value).made node = .ok after
      ↔ ∃ least, size .minItems value = .ok least ∧ after = { node with minItems := least } := by
  simp only [setMinItems, Change.made_write, bind_pure_eq_ok_iff, eq_comm (a := after)]

theorem setMaxItems_eq_ok_iff {node after : ArrayNode α} {value : Value}
    : (setMaxItems value).made node = .ok after
      ↔ ∃ greatest,
          size .maxItems value = .ok greatest ∧ after = { node with maxItems := greatest } := by
  simp only [setMaxItems, Change.made_write, bind_pure_eq_ok_iff, eq_comm (a := after)]

end ArrayNode

-----------------------------------------------------------------------------------------
-- Names of objects
-----------------------------------------------------------------------------------------

namespace ObjectNode

theorem name?_eq_some_iff {value : Value} {label : Label}
    : name? value = some label
      ↔ Label.ofValue? value = some label ∧ label.word.isEmpty = false := by
  simp [name?, Option.filter_eq_some_iff]

/-- A name is among others once it has been put behind them, and so are they. -/
theorem exists_word_addName {names : List Label} {name : Label} {word : String}
    : (∃ other ∈ addName names name, other.word = word)
      ↔ (∃ other ∈ names, other.word = word) ∨ name.word = word := by
  unfold addName
  split
  · rename_i present
    simp only [List.any_eq_true, beq_iff_eq] at present
    constructor
    · exact Or.inl
    · rintro (there | rfl)
      · exact there
      · exact present
  · simp [or_and_right, exists_or]

theorem nodup_addName {names : List Label} (name : Label)
    (distinct : (names.map (·.word)).Nodup)
    : ((addName names name).map (·.word)).Nodup := by
  unfold addName
  split
  · exact distinct
  · rename_i absent
    rw [List.map_append]
    refine List.nodup_append'.mpr ⟨distinct, List.nodup_singleton _, ?_⟩
    intro word there here
    obtain rfl := List.mem_singleton.mp here
    obtain ⟨other, member, same⟩ := List.mem_map.mp there
    exact absent (List.any_eq_true.mpr ⟨other, member, by simp [same]⟩)

/-- Required names are those that were there and those that are given, each one once. -/
theorem requiredNames_spec {values : List Value} {names required : List Label}
    (listed : requiredNames names values = .ok required)
    (distinct : (names.map (·.word)).Nodup)
    : (required.map (·.word)).Nodup
      ∧ ∀ word,
          (∃ name ∈ required, name.word = word)
          ↔ (∃ name ∈ names, name.word = word) ∨ ∃ value ∈ values, value.text? = some word := by
  induction values generalizing names with
  | nil =>
      obtain rfl := Except.ok.inj listed
      exact ⟨distinct, by simp⟩
  | cons value rest ih =>
      rw [requiredNames] at listed
      split at listed
      · rename_i name named
        obtain ⟨text, -⟩ := name?_eq_some_iff.mp named
        have reads : value.text? = some name.word := by
          rw [← Label.word_ofValue?, text, Option.map_some]
        obtain ⟨distinct, words⟩ := ih listed (nodup_addName name distinct)
        refine ⟨distinct, fun word => ?_⟩
        rw [words, exists_word_addName, List.exists_mem_cons_iff, reads, Option.some.injEq,
          or_assoc]
      · nomatch listed

-----------------------------------------------------------------------------------------
-- Objects
-----------------------------------------------------------------------------------------

variable {node after : ObjectNode α}

/-- A member can be declared if its name is new and its child a schema. -/
theorem newEntry_eq_ok_iff {name : Value} {schema : Slot α} {entry : Label × α}
    : node.newEntry name schema = .ok entry
      ↔ name? name = some entry.1
        ∧ node.declares entry.1.word = false
        ∧ schema = .proper entry.2 := by
  obtain ⟨label, child⟩ := entry
  unfold newEntry
  split
  · rename_i unnamed
    simp [unnamed]
  · rename_i other named
    simp only [named, Option.some.injEq]
    split
    · rename_i declared
      refine iff_of_false (by simp) ?_
      rintro ⟨rfl, undeclared, -⟩
      exact Bool.false_ne_true (undeclared.symm.trans declared)
    · rename_i undeclared
      have free : node.declares other.word = false := by simpa using undeclared
      cases schema with
      | proper child' =>
          simp only [ObjectNode.entry, ok_bind, pure_eq_ok_iff, Prod.mk.injEq, Slot.proper.injEq]
          refine and_congr_right fun same => ?_
          subst same
          simp [free]
      | stray value => simp [ObjectNode.entry]

/-- A declaration step by step: what cannot be declared changes nothing, and what is declared stays
where the flag fails when it is asked for its truth. -/
theorem addProperty_apply {name : Value} {schema : Slot α} {required : Value}
    : addProperty name schema required node =
      match node.newEntry name schema with
      | .error failure => .error failure node
      | .ok entry =>
          match Leaf.flagOf required with
          | .error failure => .error failure (node.declare entry)
          | .ok flag =>
              .ok ()
                (if flag then (node.declare entry).require entry.1 else node.declare entry) := by
  rw [addProperty, Change.bind_apply, Change.ask_apply]
  cases node.newEntry name schema with
  | error failure => rfl
  | ok entry =>
      dsimp only
      rw [Change.bind_apply, Change.modify_apply]
      dsimp only
      rw [Change.bind_apply, Change.ask_apply]
      cases Leaf.flagOf required with
      | error failure => rfl
      | ok flag => cases flag <;> rfl

/-- A declaration that fails has either written nothing, and could not be made without its flag
either, or it has broken off at the flag, and leaves what it makes without one. -/
theorem left_of_addProperty_failed {name : Value} {schema : Slot α} {required : Value}
    {failure : Failure} (failed : (addProperty name schema required).made node = .error failure)
    : ((∃ failure, (addProperty name schema (.bool false)).made node = .error failure)
        ∧ (addProperty name schema required).left node = node)
      ∨ ((∃ fault, required.truth = .error fault ∧ failure = .stopped fault)
        ∧ (addProperty name schema (.bool false)).made node
          = .ok ((addProperty name schema required).left node)) := by
  simp only [Change.made, Change.left, addProperty_apply] at failed ⊢
  cases fresh : node.newEntry name schema with
  | error failure => exact Or.inl ⟨⟨failure, rfl⟩, rfl⟩
  | ok entry =>
      simp only [fresh] at failed
      cases asked : required.truth with
      | ok flag => simp [Leaf.flagOf, asked, Except.mapError] at failed
      | error fault =>
          have broken : Leaf.flagOf required = .error (.stopped fault) := by
            rw [Leaf.flagOf, asked]
            rfl
          simp only [broken] at failed ⊢
          exact Or.inr ⟨⟨fault, rfl, (Except.error.inj failed).symm⟩, rfl⟩

/-- A member is declared if it can be and its flag has a truth. -/
theorem addProperty_eq_ok_iff {name : Value} {schema : Slot α} {required : Value}
    : (addProperty name schema required).made node = .ok after
      ↔ ∃ label child flag,
          name? name = some label
          ∧ node.declares label.word = false
          ∧ schema = .proper child
          ∧ required.truth = .ok flag
          ∧ after =
              { node with
                properties := node.properties ++ [(label, child)]
                required := if flag then addName node.required label else node.required } := by
  rw [Change.made, addProperty_apply]
  cases fresh : node.newEntry name schema with
  | error failure =>
      refine iff_of_false (fun made => by cases made) ?_
      rintro ⟨label, child, flag, named, free, proper, -⟩
      have entry : node.newEntry name schema = .ok (label, child) :=
        newEntry_eq_ok_iff.mpr ⟨named, free, proper⟩
      rw [fresh] at entry
      cases entry
  | ok entry =>
      obtain ⟨named, free, rfl⟩ := newEntry_eq_ok_iff.mp fresh
      simp only [named, Option.some.injEq, Slot.proper.injEq, ← Leaf.flagOf_eq_ok_iff]
      cases asked : Leaf.flagOf required with
      | error failure => simp
      | ok flag =>
          have whole
              : (if flag then (node.declare entry).require entry.1 else node.declare entry)
                = { node with
                    properties := node.properties ++ [entry]
                    required :=
                      if flag then addName node.required entry.1 else node.required } := by
            cases flag <;> rfl
          simp [whole, free, eq_comm (a := after)]

theorem addPattern_eq_ok_iff {pattern : Value} {schema : Slot α}
    : (addPattern pattern schema).made node = .ok after
      ↔ ∃ slot child,
          namePattern pattern = .ok slot
          ∧ schema = .proper child
          ∧ after = { node with patterns := node.patterns ++ [(slot, child)] } := by
  simp only [addPattern, Change.made_write, bind_eq_ok_iff, pure_eq_ok_iff, eq_comm (a := after)]
  cases schema with
  | proper child => simp [entry]
  | stray value => simp [entry]

/-- Required names are read from what gives all of them. -/
theorem requiredOf_eq_ok_iff {value : Value} {required : List Label}
    : requiredOf value = .ok required
      ↔ value.text? = none
        ∧ ∃ names, value.elements = .ok names ∧ requiredNames [] names = .ok required := by
  unfold requiredOf Value.elements
  cases value.text? with
  | some text => simp
  | none =>
      obtain ⟨given, ending⟩ := value.iteration
      cases ending with
      | none => simp
      | some fault =>
          refine iff_of_false (fun returned => ?_) (by simp)
          obtain ⟨names, -, ended⟩ := bind_eq_ok_iff.mp returned
          cases ended

theorem setRequired_eq_ok_iff {value : Value}
    : (setRequired value).made node = .ok after
      ↔ value.text? = none
        ∧ ∃ names required,
            value.elements = .ok names
            ∧ requiredNames [] names = .ok required
            ∧ after = { node with required } := by
  simp only [setRequired, Change.made_write, bind_pure_eq_ok_iff, requiredOf_eq_ok_iff,
    eq_comm (a := after)]
  grind

/-- What is said of additional members is written policy and schema, both or neither. -/
theorem setAdditional_apply {value : Slot α}
    : setAdditional value node =
      match additionalOf value with
      | .ok additional => .ok () { node with additional }
      | .error failure => .error failure node := by
  rw [setAdditional, Change.bind_apply, Change.ask_apply]
  cases additionalOf value <;> rfl

/-- What is said of additional members is not written in part. -/
theorem atomicAt_setAdditional {value : Slot α}
    : (setAdditional value).AtomicAt node := by
  intro failure failed
  simp only [Change.made, Change.left, setAdditional_apply] at failed ⊢
  cases said : additionalOf value with
  | ok additional =>
      rw [said] at failed
      cases failed
  | error failure => rfl

theorem setAdditional_eq_ok_iff {value : Slot α}
    : (setAdditional value).made node = .ok after
      ↔ ∃ additional, additionalOf value = .ok additional ∧ after = { node with additional } := by
  rw [Change.made, setAdditional_apply]
  cases additionalOf value with
  | error failure => simp
  | ok additional => simp [eq_comm (a := after)]

-----------------------------------------------------------------------------------------
-- Distinct names are kept
-----------------------------------------------------------------------------------------

theorem distinct_initial
    : ({} : ObjectNode α).Distinct :=
  ⟨List.nodup_nil, List.nodup_nil⟩

theorem distinct_of_addProperty {name : Value} {schema : Slot α} {required : Value}
    (distinct : node.Distinct) (added : (addProperty name schema required).made node = .ok after)
    : after.Distinct := by
  obtain ⟨label, child, flag, -, undeclared, -, -, rfl⟩ := addProperty_eq_ok_iff.mp added
  refine ⟨?_, ?_⟩
  · rw [List.map_append]
    refine List.nodup_append'.mpr ⟨distinct.declared, List.nodup_singleton _, ?_⟩
    intro word there here
    obtain rfl := List.mem_singleton.mp here
    obtain ⟨entry, member, same⟩ := List.mem_map.mp there
    have declared : node.declares label.word := (node.declares_iff _).mpr ⟨entry, member, same⟩
    simp [undeclared] at declared
  · dsimp only
    split
    · exact nodup_addName label distinct.required
    · exact distinct.required

theorem distinct_of_addPattern {pattern : Value} {schema : Slot α} (distinct : node.Distinct)
    (added : (addPattern pattern schema).made node = .ok after)
    : after.Distinct := by
  obtain ⟨slot, child, -, -, rfl⟩ := addPattern_eq_ok_iff.mp added
  exact ⟨distinct.declared, distinct.required⟩

theorem distinct_of_setRequired {value : Value} (distinct : node.Distinct)
    (assigned : (setRequired value).made node = .ok after)
    : after.Distinct := by
  obtain ⟨-, names, required, -, listed, rfl⟩ := setRequired_eq_ok_iff.mp assigned
  exact ⟨distinct.declared, (requiredNames_spec listed List.nodup_nil).1⟩

end ObjectNode

end Assay

import Assay.Proofs.Leaf.Admission
import Assay.Proofs.Leaf.Bounds
import Assay.Proofs.Schema.Stopping

/-! Why checks fail, whatever formats are registered, as long as the patterns of a schema are
patterns and its bounds are real: what is checked has no kind, cannot be compared or cannot be
searched, or a registered format fails by itself. Where something else is kept as a pattern or as a
bound, a check that gets to it fails because of that.
-/

namespace Assay

-----------------------------------------------------------------------------------------
-- Steps that fail for known reasons
-----------------------------------------------------------------------------------------

/-- A step fails only with faults that are excused. -/
def FailsOnlyBy {α : Type} (excused : Fault → Prop) (outcome : Except Fault α)
    : Prop :=
  ∀ fault, outcome = .error fault → excused fault

namespace FailsOnlyBy

variable {α β : Type} {excused : Fault → Prop}

theorem ok (answer : α)
    : FailsOnlyBy excused (.ok answer) := nofun

theorem error {fault : Fault} (known : excused fault)
    : FailsOnlyBy excused (.error fault : Except Fault α) := by
  rintro _ ⟨⟩
  exact known

/-- A chain fails only by what its steps fail by. -/
theorem bind {first : Except Fault α} {next : α → Except Fault β}
    (here : FailsOnlyBy excused first) (later : ∀ answer, FailsOnlyBy excused (next answer))
    : FailsOnlyBy excused (first >>= next) := by
  intro fault failed
  rcases bind_eq_error_iff.mp failed with first | ⟨answer, -, next⟩
  · exact here fault first
  · exact later answer fault next

/-- A question whose answer decides between two outcomes. -/
theorem ite {condition : Prop} [Decidable condition] {one other : Except Fault α}
    (yes : FailsOnlyBy excused one) (no : FailsOnlyBy excused other)
    : FailsOnlyBy excused (if condition then one else other) := by
  split
  · exact yes
  · exact no

end FailsOnlyBy

/-- What the check of a document may fail by, whatever constraints are stored: something has no
kind, numbers have no order, a search ends with a twisted group, a schema holds itself, or the
check of a registered format fails. -/
inductive Excused (formats : Registries) : Fault → Prop
  | kind {value : Value} {fault} (unknown : value.kind = .error fault) : Excused formats fault
  | unordered : Excused formats .unorderedDecimal
  | twisted : Excused formats .twistedGroup
  | endless : Excused formats .endless
  | format {registry name value fault} (failed : (formats registry).check name value = .error fault)
    : Excused formats fault

variable {formats : Registries} {value : Value}

theorem Number.compared_failsOnlyBy {apart : Fault} {holds : Ordering → Bool}
    {number other : Number} (real : ¬number.isComplex) (real' : ¬other.isComplex)
    : FailsOnlyBy (Excused formats) (compared apart holds number other) := by
  unfold compared
  split
  · exact .ok _
  · rw [if_neg (by simp [real, real'])]
    exact .ite (.error .unordered) (.ok _)

/-- The comparisons with a bound fail as comparisons do. -/
theorem Number.bound_failsOnlyBy {α : Type} {apart apart' : Fault} {exclusive : Bool}
    {number bound : Number} {excluded outside : α} (real : ¬number.isComplex)
    (real' : ¬bound.isComplex)
    : FailsOnlyBy (Excused formats) do
        let level ←
          if exclusive then compared apart (· != .gt) number bound else pure false
        if level then return some excluded
        if ← compared apart' (· == .lt) number bound then return some outside else return none := by
  have behind (level : Bool)
      : FailsOnlyBy (Excused formats) do
          if level then return some excluded
          if ← compared apart' (· == .lt) number bound then return some outside else return none :=
    .ite (.ok _) (.bind (compared_failsOnlyBy real real') fun _ => .ite (.ok _) (.ok _))
  exact .ite (.bind (compared_failsOnlyBy real real') behind) (.bind (.ok _) behind)

theorem Value.kind_failsOnlyBy
    : FailsOnlyBy (Excused formats) value.kind :=
  fun _ unknown => .kind unknown

/-- A value is compared with others unless one of two numbers is signalling. -/
theorem Value.isAmong_failsOnlyBy {members : List Value}
    : FailsOnlyBy (Excused formats) (value.isAmong members) := by
  induction members with
  | nil => exact .ok _
  | cons member rest ih =>
      refine .bind (.ite (.ok _) ?_) fun equal => .ite (.ok _) ih
      unfold Value.equals
      split
      · exact .ok _
      · exact .ok _
      · exact .ite (.error .unordered) (.ok _)
      · split
        · exact .ok _
        · exact .ok _

/-- A pattern that has been read is searched for unless the search ends with a twisted group. -/
theorem Slot.occursIn_failsOnlyBy {pattern : Pattern} {text : String}
    : FailsOnlyBy (Excused formats) ((Slot.proper pattern).occursIn text) := by
  intro fault failed
  obtain rfl := Pattern.fault_of_occursIn failed
  exact .twisted

-----------------------------------------------------------------------------------------
-- Leaves
-----------------------------------------------------------------------------------------

namespace Leaf

variable {leaf : Leaf}

theorem patternComplaint_failsOnlyBy (read : ∀ stray, leaf.pattern ≠ some (.stray stray))
    {text : String}
    : FailsOnlyBy (Excused formats) (leaf.patternComplaint? value text) := by
  unfold patternComplaint?
  cases pattern : leaf.pattern with
  | none => exact .ok _
  | some slot =>
      cases slot with
      | stray stray => exact absurd pattern (read stray)
      | proper labelled => exact .bind Slot.occursIn_failsOnlyBy fun found => .ite (.ok _) (.ok _)

theorem textComplaint_failsOnlyBy (read : ∀ stray, leaf.pattern ≠ some (.stray stray))
    : FailsOnlyBy (Excused formats) (leaf.textComplaint? value) := by
  unfold textComplaint?
  split
  · refine .bind (patternComplaint_failsOnlyBy read) fun found => ?_
    cases found with
    | none => exact .ok _
    | some complaint => exact .ok _
  · exact .ok _

theorem minimumComplaint_failsOnlyBy (documented : leaf.Documented) {number : Number}
    (real : ¬number.isComplex)
    : FailsOnlyBy (Excused formats) (leaf.minimumComplaint? value number) := by
  unfold minimumComplaint?
  split
  · exact .ok _
  · rename_i bound set
    exact Number.bound_failsOnlyBy real (documented.minimum bound set)

theorem maximumComplaint_failsOnlyBy (documented : leaf.Documented) {number : Number}
    (real : ¬number.isComplex)
    : FailsOnlyBy (Excused formats) (leaf.maximumComplaint? value number) := by
  unfold maximumComplaint?
  split
  · exact .ok _
  · rename_i bound set
    exact Number.bound_failsOnlyBy (documented.maximum bound set) real

theorem numberComplaint_failsOnlyBy (documented : leaf.Documented)
    (real : leaf.type.isNumeric → ∀ number, value = .number number → ¬number.isComplex)
    : FailsOnlyBy (Excused formats) (leaf.numberComplaint? value) := by
  unfold numberComplaint?
  split
  · rename_i number numeric
    refine .bind (minimumComplaint_failsOnlyBy documented (real numeric number rfl)) fun found => ?_
    cases found with
    | none => exact maximumComplaint_failsOnlyBy documented (real numeric number rfl)
    | some complaint => exact .ok _
  · exact .ok _

/-- What is kept as a format without being a name lets everything pass. -/
theorem formatComplaint_failsOnlyBy {registry : RegistryId}
    : FailsOnlyBy (Excused formats) (leaf.formatComplaint? (formats registry) value) := by
  unfold formatComplaint?
  cases leaf.format with
  | none => exact .ok _
  | some slot =>
      refine .bind ?_ fun passes => .ite (.ok _) (.ok _)
      cases slot with
      | stray stray => exact .ok _
      | proper label => exact fun fault failed => .format failed

/-- A type of numbers stops at a complex number, which has no kind. -/
theorem typeComplaint_of_complex {number : Number} (numeric : leaf.type.isNumeric)
    (complex : number.isComplex)
    : ∃ fault, leaf.typeComplaint? (.number number) = .error fault := by
  obtain ⟨real, imaginary, rfl⟩ : ∃ real imaginary, number = .complex real imaginary := by
    cases number with
    | complex real imaginary => exact ⟨real, imaginary, rfl⟩
    | _ => cases complex
  refine ⟨.notJson (Value.number (.complex real imaginary)).typeName, ?_⟩
  rw [typeComplaint?, SimpleType.accepts, if_neg]
  · rfl
  · intro any
    rw [any] at numeric
    cases numeric

/-- The check of a leaf that holds what is documented fails for excused reasons only. A number
without an order is no number of JSON, so it is not compared with a bound. -/
theorem check_failsOnlyBy (documented : leaf.Documented) {registry : RegistryId}
    : FailsOnlyBy (Excused formats) (leaf.check (formats registry) value) := by
  have typed : FailsOnlyBy (Excused formats) (leaf.typeComplaint? value) := by
    refine .bind (.ite (.ok _) ?_) fun accepted => .ite (.ok _) (.ok _)
    exact .bind Value.kind_failsOnlyBy fun kind => .ok _
  have listed : FailsOnlyBy (Excused formats) (leaf.enumerationComplaint? value) := by
    unfold enumerationComplaint?
    split
    · exact .ok _
    · exact .bind Value.isAmong_failsOnlyBy fun among => .ite (.ok _) (.ok _)
  have inTurn {checks : List (Value → Except Fault (Option Complaint))}
      (each : ∀ check ∈ checks, FailsOnlyBy (Excused formats) (check value))
      : FailsOnlyBy (Excused formats) (firstComplaint? checks value) := by
    induction checks with
    | nil => exact .ok _
    | cons check rest ih =>
        obtain ⟨here, later⟩ := List.forall_mem_cons.mp each
        refine .bind here fun found => ?_
        cases found with
        | none => exact ih later
        | some complaint => exact .ok _
  refine .bind ?_ fun found => ?_
  · by_cases real : leaf.type.isNumeric → ∀ number, value = .number number → ¬number.isComplex
    · refine inTurn ?_
      simp only [List.forall_mem_cons, List.not_mem_nil, false_imp_iff, implies_true, and_true]
      exact ⟨typed, listed, textComplaint_failsOnlyBy documented.pattern,
        numberComplaint_failsOnlyBy documented real, formatComplaint_failsOnlyBy⟩
    · push Not at real
      obtain ⟨numeric, number, rfl, complex⟩ := real
      obtain ⟨fault, stopped⟩ := typeComplaint_of_complex numeric complex
      rw [complaint?, firstComplaint?, stopped, error_bind]
      exact .error (typed fault stopped)
  · cases found with
    | none => exact .ok _
    | some complaint => exact .ok _

end Leaf

-----------------------------------------------------------------------------------------
-- Arrays and objects
-----------------------------------------------------------------------------------------

/-- The check of an array fails only where its kind is asked for, or the check of an item fails. -/
theorem ArrayNode.check_failsOnlyBy {node : ArrayNode Checker}
    (items : ∀ item, FailsOnlyBy (Excused formats) (node.items item))
    : FailsOnlyBy (Excused formats) (node.check value) := by
  have inTurn (index : Nat) (values : List Value)
      : FailsOnlyBy (Excused formats) (itemViolations node.items index values) := by
    induction values generalizing index with
    | nil => exact .ok _
    | cons item rest ih =>
        exact .bind (items item) fun violations => .bind (ih (index + 1)) fun others => .ok _
  refine .bind Value.kind_failsOnlyBy fun kind => ?_
  split
  · split
    · exact .ok _
    · exact inTurn 0 _
  · exact .ok _

namespace ObjectNode

variable {node : ObjectNode Checker} {name : String}

theorem memberViolations_failsOnlyBy {check : Checker}
    (checks : FailsOnlyBy (Excused formats) (check value))
    : FailsOnlyBy (Excused formats) (memberViolations name value check) :=
  .bind checks fun _ => .ok _

theorem declaredViolations_failsOnlyBy {required : List Label} {members : List (String × Value)}
    {properties : List (Label × Checker)}
    (each : ∀ entry ∈ properties, ∀ value, FailsOnlyBy (Excused formats) (entry.2 value))
    : FailsOnlyBy (Excused formats) (declaredViolations required members properties) := by
  induction properties with
  | nil => exact .ok _
  | cons entry rest ih =>
      obtain ⟨name, check⟩ := entry
      obtain ⟨here, later⟩ := List.forall_mem_cons.mp each
      have behind (violations : List Violation)
          : FailsOnlyBy (Excused formats) do
              return violations ++ (← declaredViolations required members rest) :=
        .bind (ih later) fun _ => .ok _
      unfold declaredViolations
      split
      · exact .bind (memberViolations_failsOnlyBy (here _)) behind
      · exact .bind (.ok _) behind

theorem patternViolations_failsOnlyBy {patterns : List (Slot Pattern × Checker)}
    (read : ∀ entry ∈ patterns, ∃ pattern, entry.1 = .proper pattern)
    (each : ∀ entry ∈ patterns, ∀ value, FailsOnlyBy (Excused formats) (entry.2 value))
    : FailsOnlyBy (Excused formats) (patternViolations name value patterns) := by
  induction patterns with
  | nil => exact .ok _
  | cons entry rest ih =>
      obtain ⟨slot, check⟩ := entry
      obtain ⟨⟨pattern, proper⟩, laterRead⟩ := List.forall_mem_cons.mp read
      obtain ⟨here, later⟩ := List.forall_mem_cons.mp each
      obtain rfl := proper
      refine .bind Slot.occursIn_failsOnlyBy fun found => .ite ?_ (ih laterRead later)
      refine .bind (memberViolations_failsOnlyBy (here value)) fun violations => ?_
      exact .bind (ih laterRead later) fun others => .ok _

theorem otherViolations_failsOnlyBy {members : List (String × Value)}
    (read : ∀ entry ∈ node.patterns, ∃ pattern, entry.1 = .proper pattern)
    (patterns : ∀ entry ∈ node.patterns, ∀ value, FailsOnlyBy (Excused formats) (entry.2 value))
    (additional
      : ∀ check, node.additional.schema? = some check
          → ∀ value, FailsOnlyBy (Excused formats) (check value))
    (agrees : node.additional.Agrees)
    : FailsOnlyBy (Excused formats) (node.otherViolations members) := by
  induction members with
  | nil => exact .ok _
  | cons member rest ih =>
      obtain ⟨name, value⟩ := member
      have behind (violations : List Violation)
          : FailsOnlyBy (Excused formats) do
              return violations ++ (← node.otherViolations rest) :=
        .bind ih fun _ => .ok _
      refine .bind (patternViolations_failsOnlyBy read patterns) fun ⟨matched, violations⟩ => ?_
      dsimp only
      refine .ite (.bind (.ok _) fun _ => behind _) (.bind ?_ fun _ => behind _)
      unfold additionalViolations
      split
      · exact .ok _
      · exact .ok _
      · rename_i check said
        exact memberViolations_failsOnlyBy (additional check (congrArg Additional.schema? said) _)
      · rename_i said
        rw [said] at agrees
        exact absurd (agrees.mp rfl) nofun

/-- The check of an object whose patterns are patterns, and that has a schema for additional members
where it validates them, fails only where its kind is asked for, where a search does, or where the
check of a member does. -/
theorem check_failsOnlyBy
    (read : ∀ entry ∈ node.patterns, ∃ pattern, entry.1 = .proper pattern)
    (properties
      : ∀ entry ∈ node.properties, ∀ value, FailsOnlyBy (Excused formats) (entry.2 value))
    (patterns : ∀ entry ∈ node.patterns, ∀ value, FailsOnlyBy (Excused formats) (entry.2 value))
    (additional
      : ∀ check, node.additional.schema? = some check
          → ∀ value, FailsOnlyBy (Excused formats) (check value))
    (agrees : node.additional.Agrees)
    : FailsOnlyBy (Excused formats) (node.check value) := by
  refine .bind Value.kind_failsOnlyBy fun kind => ?_
  split
  · refine .bind (declaredViolations_failsOnlyBy properties) fun declared => ?_
    exact .bind (otherViolations_failsOnlyBy read patterns additional agrees) fun others => .ok _
  · exact .ok _

end ObjectNode

-----------------------------------------------------------------------------------------
-- What is no pattern, or no bound
-----------------------------------------------------------------------------------------

/-- What counts as a text is of the kind of texts. -/
theorem Value.kind_of_text {text : String} (reads : value.text? = some text)
    : value.kind = .ok .string := by
  cases value with
  | string => rfl
  | foreign thing =>
      cases thing with
      | policy => rfl
      | _ => nomatch reads
  | _ => nomatch reads

namespace Leaf

variable {leaf : Leaf}

theorem enumerationComplaint_of_listed
    (listed : ∀ members, leaf.enumeration = some members → value.isAmong members = .ok true)
    : leaf.enumerationComplaint? value = .ok none := by
  cases enumerated : leaf.enumeration with
  | none => simp only [enumerationComplaint?, enumerated]
  | some members =>
      simp only [enumerationComplaint?, enumerated, listed members enumerated, ok_bind, if_true]
      rfl

/-- A leaf of texts that keeps something else as its pattern fails at each text that is enumerated,
if any are: it asks for a search that only patterns of texts offer. -/
theorem complaint_of_stray {formats : FormatRegistry} {stray : Value} {text : String}
    (texts : leaf.type = .string) (given : leaf.pattern = some (.stray stray))
    (reads : value.text? = some text)
    (listed : ∀ members, leaf.enumeration = some members → value.isAmong members = .ok true)
    : leaf.complaint? formats value = .error (Slot.searchFault stray) := by
  have typed : leaf.typeComplaint? value = .ok none := by
    rw [typeComplaint?, texts, SimpleType.accepts, Value.kind_of_text reads]
    rfl
  have among := enumerationComplaint_of_listed listed
  have failed : leaf.textComplaint? value = .error (Slot.searchFault stray) := by
    simp only [textComplaint?, texts, reads, patternComplaint?, given]
    rfl
  simp only [complaint?, firstComplaint?, typed, among, failed, ok_bind, error_bind]

/-- A leaf of numbers compares a number with its bounds in vain: one of them has no order, and no
bound has been broken before. -/
inductive ComparesInVain (leaf : Leaf) (number : Number) : Prop
  | minimum {bound} (given : leaf.minimum = some bound) (complex : bound.isComplex)
    : leaf.ComparesInVain number
  | maximum {bound} (given : leaf.maximum = some bound) (complex : bound.isComplex)
    (least
      : ∀ bound,
          leaf.minimum = some bound
          → bound.Precedes leaf.exclusiveMinimum number ∨ number.Unranked bound)
    : leaf.ComparesInVain number

/-- What has no order cannot be compared with. -/
theorem unordered_of_isComplex {number bound : Number} (complex : bound.isComplex)
    : number.Unordered bound := by
  refine ⟨Or.inr ?_, Or.inl (Or.inr complex)⟩
  cases bound with
  | complex real imaginary => rfl
  | _ => nomatch complex

/-- A leaf of numbers with such a bound fails at each number of its type that is enumerated, if any
are. -/
theorem not_returns_of_comparesInVain {formats : FormatRegistry} {number : Number}
    (numeric : leaf.type.isNumeric) (typed : (Value.number number).HasType leaf.type)
    (listed
      : ∀ members,
          leaf.enumeration = some members → (Value.number number).isAmong members = .ok true)
    (vain : leaf.ComparesInVain number)
    : ¬Returns (leaf.complaint? formats (.number number)) := by
  intro returned
  have accepted : leaf.typeComplaint? (.number number) = .ok none :=
    (typeComplaint_eq_none_iff numeric).mpr ⟨number, rfl, typed⟩
  have among := enumerationComplaint_of_listed listed
  have texts : leaf.textComplaint? (.number number) = .ok none := by
    simp [textComplaint?, Value.text?]
  simp only [complaint?, firstComplaint?, accepted, among, texts, ok_bind] at returned
  obtain ⟨found, judged, -⟩ := bind_returns_iff.mp returned
  have ordered := numberComplaint_returns_iff.mp ⟨found, judged⟩ number numeric rfl
  cases vain with
  | minimum given complex => exact ordered.1 _ given (unordered_of_isComplex complex)
  | maximum given complex least =>
      have kept : leaf.minimumComplaint? (.number number) number = .ok none :=
        minimumComplaint_eq_none_iff.mpr least
      have settled := (leaf.minimumComplaint_settles (.number number) number none kept).mp rfl
      exact ordered.2 settled _ given (unordered_of_isComplex complex)

end Leaf

namespace Schema

/-- A node asks something that is no pattern of texts whether it occurs in a text, one that a leaf
of texts checks or the name of a member, or compares a number with a bound that has no order. -/
inductive Mistaken : Schema → Value → Prop
  | leaf {registry leaf stray value text} (texts : leaf.type = .string)
    (given : leaf.pattern = some (.stray stray)) (reads : value.text? = some text)
    (listed : ∀ members, leaf.enumeration = some members → value.isAmong members = .ok true)
    : Mistaken (.leaf registry leaf) value
  | bound {registry leaf number} (numeric : leaf.type.isNumeric)
    (typed : (Value.number number).HasType leaf.type)
    (listed
      : ∀ members,
          leaf.enumeration = some members → (Value.number number).isAmong members = .ok true)
    (vain : leaf.ComparesInVain number)
    : Mistaken (.leaf registry leaf) (.number number)
  | object {node stray child members} (given : (.stray stray, child) ∈ node.patterns)
    (present : members ≠ [])
    : Mistaken (.object node) (.object members)

/-- A check that leads to such a node fails. -/
theorem not_returns_of_mistaken {schema node : Schema} {document part : Value} {route : List Edge}
    (walk : schema.Walk document route node part) (mistaken : node.Mistaken part)
    : ¬Returns (schema.check formats document) := by
  intro returned
  have visited := check_returns_iff_visits.mp returned route node part walk
  cases mistaken with
  | leaf texts given reads listed =>
      obtain ⟨found, judged⟩ := leaf_visits_returns_iff.mp visited
      nomatch judged.symm.trans (Leaf.complaint_of_stray texts given reads listed)
  | bound numeric typed listed vain =>
      have judged := leaf_visits_returns_iff.mp visited
      exact Leaf.not_returns_of_comparesInVain numeric typed listed vain judged
  | @object node stray child members given present =>
      have searched := ObjectNode.searched_of_otherVisits (object_visits_returns_iff.mp visited)
      obtain ⟨member, rest, rfl⟩ := List.exists_cons_of_ne_nil present
      exact not_returns_error _ (searched member List.mem_cons_self _ given)

end Schema

end Assay

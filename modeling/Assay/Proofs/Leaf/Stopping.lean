import Assay.Proofs.Leaf.Conformance

/-! Where the check of a leaf stops without an answer. Each check returns except on a few values,
and is made only on values that conform to what is checked before.
-/

namespace Assay

-----------------------------------------------------------------------------------------
-- Numbers and texts
-----------------------------------------------------------------------------------------

namespace Number

/-- Two numbers may not be ordered: one of them has no place, as a mark for no number or as a
complex number, and one is complex or decimal. -/
structure Unordered (number other : Number) : Prop where
  mark : number.extent? = none ∨ other.extent? = none
  classes : (number.isComplex ∨ other.isComplex) ∨ number.isDecimal ∨ other.isDecimal

theorem order_eq_none_iff {number other : Number}
    : number.order? other = none ↔ number.extent? = none ∨ other.extent? = none := by
  unfold order?
  cases number.extent? <;> cases other.extent? <;> simp

theorem unordered_symm {number other : Number}
    : number.Unordered other ↔ other.Unordered number :=
  ⟨fun apart => ⟨apart.mark.symm, apart.classes.imp Or.symm Or.symm⟩,
    fun apart => ⟨apart.mark.symm, apart.classes.imp Or.symm Or.symm⟩⟩

theorem compared_returns_iff {apart : Fault} {holds : Ordering → Bool} {number other : Number}
    : Returns (compared apart holds number other) ↔ ¬number.Unordered other := by
  have marked := @order_eq_none_iff number other
  unfold compared
  cases order : number.order? other with
  | some order =>
      have ordered : ¬number.Unordered other := by
        intro apart
        have none := marked.mpr apart.mark
        rw [order] at none
        nomatch none
      simp [ordered]
  | none =>
      have mark := marked.mp order
      dsimp only
      split
      · rename_i complex
        have apart : number.Unordered other := ⟨mark, Or.inl (by simpa using complex)⟩
        simp [apart]
      · rename_i real
        split
        · rename_i decimal
          have apart : number.Unordered other := ⟨mark, Or.inr (by simpa using decimal)⟩
          simp [apart]
        · rename_i plain
          have ordered : ¬number.Unordered other := fun apart =>
            apart.classes.elim (fun complex => real (by simpa using complex))
              fun decimal => plain (by simpa using decimal)
          simp [ordered]

/-- The comparisons with a bound return exactly if the number may be ordered against it. -/
theorem bound_returns_iff {α : Type} (apart apart' : Fault) (exclusive : Bool)
    (number bound : Number) (excluded outside : α)
    : Returns (do
        let level ← if exclusive then compared apart (· != .gt) number bound else pure false
        if level then return some excluded
        if ← compared apart' (· == .lt) number bound then return some outside else return none)
      ↔ ¬number.Unordered bound := by
  have less : Returns (compared apart' (· == .lt) number bound) ↔ ¬number.Unordered bound :=
    compared_returns_iff
  have level : Returns (compared apart (· != .gt) number bound) ↔ ¬number.Unordered bound :=
    compared_returns_iff
  by_cases apart : number.Unordered bound
  · obtain ⟨fault, less⟩ := not_returns_iff.mp fun returned => less.mp returned apart
    obtain ⟨fault', level⟩ := not_returns_iff.mp fun returned => level.mp returned apart
    cases exclusive <;> simp [less, level, apart]
  · obtain ⟨below, less⟩ := less.mpr apart
    obtain ⟨excluded, level⟩ := level.mpr apart
    cases exclusive <;> cases below <;> cases excluded <;> simp [less, level, apart]

end Number

/-- A search for a pattern stops on one ground only. -/
theorem Pattern.fault_of_occursIn {pattern : Pattern} {text : String} {fault : Fault}
    (stopped : pattern.occursIn text = .error fault)
    : fault = .twistedGroup := by
  unfold occursIn at stopped
  split at stopped
  · nomatch stopped
  · split at stopped
    · exact (Except.error.inj stopped).symm
    · nomatch stopped

/-- A fault is all that stops a text from being told to be a pattern or not. -/
theorem Format.isPattern_eq_error_iff {text : String} {fault : Fault}
    : isPattern text = .error fault ↔ Pattern.compile text = .error (.fault fault) := by
  unfold isPattern
  cases Pattern.compile text with
  | ok pattern => simp
  | error refusal => cases refusal <;> simp

theorem Format.isPattern_returns_iff {text : String}
    : Returns (isPattern text) ↔ ∀ fault, Pattern.compile text ≠ .error (.fault fault) := by
  rw [← not_iff_not, not_returns_iff]
  simp only [isPattern_eq_error_iff, not_forall, not_not]

/-- Of the built-in formats, only the one of patterns has a check that may stop. -/
theorem FormatRegistry.builtIn_check_returns_iff {name : String} {value : Value}
    : Returns (builtIn.check name value)
      ↔ (name = regex
          → ∀ text,
              value.text? = some text → ∀ fault, Pattern.compile text ≠ .error (.fault fault))
    := by
  by_cases pattern : name = regex
  · have checks : builtIn.check name value = Format.patternCheck value := by
      rw [pattern]
      rfl
    rw [checks, Format.patternCheck]
    cases value.text? with
    | none => simp
    | some text => simp [Format.isPattern_returns_iff, pattern]
  · have total : ∀ format, builtIn.get? name = some format → Returns (format.check value) := by
      intro format found
      obtain ⟨before, after, same, -⟩ := List.lookup_eq_some_iff.mp found
      have listed : (name, format) ∈ builtIn.entries := by simp [same]
      have texts (holds : List Char → Bool) : Returns (Format.textCheck holds value) := returns_ok _
      simp only [builtIn, List.mem_cons, Prod.mk.injEq, List.not_mem_nil, or_false] at listed
      rcases listed with ⟨-, rfl⟩ | ⟨-, rfl⟩ | ⟨-, rfl⟩ | ⟨same, -⟩ | ⟨-, rfl⟩ | ⟨-, rfl⟩
      · exact texts _
      · exact texts _
      · exact texts _
      · exact absurd same pattern
      · exact texts _
      · exact returns_ok true
    simp only [pattern, false_implies, iff_true, check]
    split
    · rename_i format found
      exact total format found
    · exact returns_ok _

-----------------------------------------------------------------------------------------
-- Values
-----------------------------------------------------------------------------------------

namespace Value

/-- Two values are compared unless one of two numbers is signalling. -/
theorem equals_returns_iff {value other : Value}
    : Returns (value.equals other)
      ↔ ∀ number member,
          value = .number number
          → other = .number member
          → ¬(number.isSignalling ∨ member.isSignalling) := by
  constructor
  · rintro returned number member rfl rfl signalling
    have stopped : equals (.number number) (.number member) = .error .unorderedDecimal :=
      if_pos (by simpa only [Bool.or_eq_true] using signalling)
    rw [stopped] at returned
    exact not_returns_error _ returned
  · intro quiet
    unfold equals
    split
    · exact returns_ok _
    · exact returns_ok _
    · rename_i number member
      have quiet := quiet number member rfl rfl
      simp only [Number.equal, Bool.or_eq_true, quiet, if_false, returns_ok]
    · split <;> exact returns_ok _

/-- Two values are compared unless one of two numbers is signalling, which does not matter where
they are the same object. -/
theorem isOrEquals_returns_iff {value other : Value}
    : Returns (value.isOrEquals other)
      ↔ ∀ number member,
          value = .number number
          → other = .number member
          → ¬number.isSame member
          → ¬(number.isSignalling ∨ member.isSignalling) := by
  unfold isOrEquals
  split
  · rename_i same
    refine iff_of_true (returns_ok _) ?_
    rintro number member rfl rfl apart
    exact absurd same apart
  · rename_i apart
    rw [equals_returns_iff]
    refine forall₄_congr fun number member _ _ => ?_
    subst_vars
    exact (imp_iff_right apart).symm

/-- A search among values stops only at a member that the value cannot be compared with, and only
behind members that differ from it. -/
theorem isAmong_returns_iff {value : Value} {members : List Value}
    : Returns (value.isAmong members)
      ↔ ∀ before member after,
          members = before ++ member :: after
          → (∀ other ∈ before, value.isOrEquals other = .ok false)
          → Returns (value.isOrEquals member) := by
  induction members with
  | nil => simp [isAmong]
  | cons first rest ih =>
      constructor
      · intro returned before member after same differ
        simp only [isAmong, bind_returns_iff] at returned
        obtain ⟨equal, compared, later⟩ := returned
        cases before with
        | nil =>
            obtain rfl := (List.cons.inj same).1
            exact ⟨equal, compared⟩
        | cons other before =>
            rw [List.cons_append, List.cons.injEq] at same
            obtain ⟨rfl, same⟩ := same
            have unequal := differ first List.mem_cons_self
            obtain rfl := Except.ok.inj (unequal.symm.trans compared)
            exact ih.mp later before member after same fun other listed =>
              differ other (List.mem_cons_of_mem _ listed)
      · intro comparable
        obtain ⟨equal, compared⟩ := comparable [] first rest rfl (by simp)
        simp only [isAmong, compared, ok_bind]
        cases equal with
        | true => exact returns_pure _
        | false =>
            refine ih.mpr fun before member after same differ => ?_
            refine comparable (first :: before) member after (congrArg _ same) ?_
            exact List.forall_mem_cons.mpr ⟨compared, differ⟩

end Value

-----------------------------------------------------------------------------------------
-- Each check of a leaf
-----------------------------------------------------------------------------------------

namespace Leaf

variable {leaf : Leaf} {value : Value}

theorem typeComplaint_returns_iff
    : Returns (leaf.typeComplaint? value) ↔ (leaf.type ≠ .any → Returns value.kind) := by
  rw [typeComplaint?, Settles.noneIf_returns_iff, SimpleType.accepts]
  split
  · rename_i any
    simp [any]
  · rename_i asked
    simp only [asked, ne_eq, not_false_eq_true, true_imp_iff, bind_pure_returns_iff]

theorem enumerationComplaint_returns_iff
    : Returns (leaf.enumerationComplaint? value)
      ↔ ∀ members, leaf.enumeration = some members → Returns (value.isAmong members) := by
  unfold enumerationComplaint?
  cases leaf.enumeration with
  | none => simp
  | some members => simp [Settles.noneIf_returns_iff]

/-- A text is searched for a pattern that has been read unless the search stops. -/
theorem patternComplaint_returns_iff (read : ∀ stray, leaf.pattern ≠ some (.stray stray))
    {text : String}
    : Returns (leaf.patternComplaint? value text)
      ↔ ∀ labelled,
          leaf.pattern = some (.proper labelled)
          → labelled.pattern.occursIn text ≠ .error .twistedGroup := by
  unfold patternComplaint?
  cases pattern : leaf.pattern with
  | none => simp
  | some slot =>
      cases slot with
      | stray other => exact absurd pattern (read other)
      | proper labelled =>
          have searched : Returns (labelled.pattern.occursIn text)
              ↔ labelled.pattern.occursIn text ≠ .error .twistedGroup := by
            cases found : labelled.pattern.occursIn text with
            | ok hit => simp
            | error fault => simp [Pattern.fault_of_occursIn found]
          simp only [Option.some.injEq, Slot.proper.injEq, forall_eq', ← searched]
          exact Settles.noneIf_returns_iff

/-- A text is checked unless the search for the pattern in it stops. -/
theorem textComplaint_returns_iff (read : ∀ stray, leaf.pattern ≠ some (.stray stray))
    : Returns (leaf.textComplaint? value)
      ↔ ∀ text,
          leaf.type = .string
          → value.text? = some text
          → ∀ labelled,
              leaf.pattern = some (.proper labelled)
              → labelled.pattern.occursIn text ≠ .error .twistedGroup := by
  unfold textComplaint?
  split
  · rename_i text string reads
    refine (Settles.orElse_returns_iff (leaf.patternComplaint_settles value text) ?_).trans ?_
    · exact fun _ => rfl
    rw [patternComplaint_returns_iff read]
    simp [string, reads]
  · rename_i other
    exact iff_of_true (returns_ok none) fun text string reads => (other text string reads).elim

theorem minimumComplaint_returns_iff {number : Number}
    : Returns (leaf.minimumComplaint? value number)
      ↔ ∀ bound, leaf.minimum = some bound → ¬number.Unordered bound := by
  unfold minimumComplaint?
  cases leaf.minimum with
  | none => simp
  | some bound => simpa using! Number.bound_returns_iff _ _ _ number bound _ _

theorem maximumComplaint_returns_iff {number : Number}
    : Returns (leaf.maximumComplaint? value number)
      ↔ ∀ bound, leaf.maximum = some bound → ¬number.Unordered bound := by
  unfold maximumComplaint?
  cases leaf.maximum with
  | none => simp
  | some bound =>
      have compared : ¬bound.Unordered number ↔ ¬number.Unordered bound :=
        not_congr Number.unordered_symm
      simpa [compared] using! Number.bound_returns_iff _ _ _ bound number _ _

/-- A number is compared with the minimum, and then with the maximum unless it is below the
minimum. -/
theorem numberComplaint_returns_iff
    : Returns (leaf.numberComplaint? value)
      ↔ ∀ number,
          leaf.type.isNumeric
          → value = .number number
          → (∀ bound, leaf.minimum = some bound → ¬number.Unordered bound)
            ∧ ((∀ bound, leaf.minimum = some bound → number.NotBelow leaf.exclusiveMinimum bound)
              → ∀ bound, leaf.maximum = some bound → ¬number.Unordered bound) := by
  unfold numberComplaint?
  split
  · rename_i number numeric
    refine (Settles.orElse_returns_iff (leaf.minimumComplaint_settles _ number) ?_).trans ?_
    · exact fun _ => rfl
    rw [minimumComplaint_returns_iff, maximumComplaint_returns_iff]
    simp [numeric]
  · rename_i other
    exact iff_of_true (returns_ok none) fun number numeric same => (other number numeric same).elim

/-- A value is asked for its format unless it is to be a pattern whose reading stops. -/
theorem formatComplaint_returns_iff
    : Returns (leaf.formatComplaint? .builtIn value)
      ↔ ∀ label,
          leaf.format = some (.proper label)
          → label.word = FormatRegistry.regex
          → ∀ text,
              value.text? = some text → ∀ fault, Pattern.compile text ≠ .error (.fault fault) := by
  unfold formatComplaint?
  cases leaf.format with
  | none => simp
  | some slot =>
      dsimp only
      rw [Settles.noneIf_returns_iff]
      cases slot with
      | stray other => simp [Slot.passes]
      | proper label => simp [Slot.passes, FormatRegistry.builtIn_check_returns_iff]

/-- Checks tried in order return if the first of them does, and the others on what it lets
through. -/
theorem firstComplaint_returns_iff {check : Value → Except Fault (Option Complaint)}
    {rest : List (Value → Except Fault (Option Complaint))} {condition : Prop}
    (h : Settles (check value) none condition)
    : Returns (firstComplaint? (check :: rest) value)
      ↔ Returns (check value) ∧ (condition → Returns (firstComplaint? rest value)) := by
  rw [firstComplaint?]
  exact Settles.orElse_returns_iff h fun _ => rfl

/-- Each check of a leaf has to return only on what conforms to all that is checked before. -/
theorem complaint_returns_iff_checks {formats : FormatRegistry}
    : Returns (leaf.complaint? formats value)
      ↔ Returns (leaf.typeComplaint? value)
        ∧ (Conforms formats { type := leaf.type } value
          → Returns (leaf.enumerationComplaint? value))
        ∧ (Conforms formats { type := leaf.type, enumeration := leaf.enumeration } value
          → Returns (leaf.textComplaint? value))
        ∧ (Conforms formats { leaf with minimum := none, maximum := none, format := none } value
          → Returns (leaf.numberComplaint? value))
        ∧ (Conforms formats { leaf with format := none } value
          → Returns (leaf.formatComplaint? formats value)) := by
  have last : Returns (firstComplaint? [] value) := returns_ok none
  simp only [complaint?, firstComplaint_returns_iff (leaf.typeComplaint_settles value),
    firstComplaint_returns_iff (leaf.enumerationComplaint_settles value),
    firstComplaint_returns_iff (leaf.textComplaint_settles value),
    firstComplaint_returns_iff (leaf.numberComplaint_settles value),
    firstComplaint_returns_iff (leaf.formatComplaint_settles formats value), last]
  -- What is not set asks nothing, so that both sides are the same chain of conditions.
  simp only [conforms_iff, reduceCtorEq, false_implies, implies_true, and_true, and_self, imp_and,
    and_imp]

/-- The maximum is checked on what conforms to the leaf up to the minimum. -/
theorem conforms_upToMinimum_iff {formats : FormatRegistry}
    : Conforms formats { leaf with maximum := none, format := none } value
      ↔ Conforms formats { leaf with minimum := none, maximum := none, format := none } value
        ∧ ∀ number,
            leaf.type.isNumeric
            → value = .number number
            → ∀ bound,
                leaf.minimum = some bound → number.NotBelow leaf.exclusiveMinimum bound := by
  simp only [conforms_iff, reduceCtorEq, false_implies, implies_true, and_true, and_self, and_assoc]

-----------------------------------------------------------------------------------------
-- Where the check of a leaf stops
-----------------------------------------------------------------------------------------

/-- The check of a leaf with the built-in formats stops at a value: it asks for the kind of what
has none, compares a signalling number with another object, orders a mark for no number where a
decimal takes part, or a complex number at all, ends a search with a twisted group, or reads a text
as a pattern that is too large for one. The value conforms to all that is checked before. -/
inductive Stops (leaf : Leaf) : Value → Prop
  | kind {value fault} (asked : leaf.type ≠ .any) (unknown : value.kind = .error fault)
    : leaf.Stops value
  | enumeration {number before member after}
    (typed : Conforms .builtIn { type := leaf.type } (.number number))
    (listed : leaf.enumeration = some (before ++ .number member :: after))
    (differ : ∀ other ∈ before, (Value.number number).isOrEquals other = .ok false)
    (apart : ¬number.isSame member) (signalling : number.isSignalling ∨ member.isSignalling)
    : leaf.Stops (.number number)
  | pattern {value text labelled}
    (listed : Conforms .builtIn { type := leaf.type, enumeration := leaf.enumeration } value)
    (string : leaf.type = .string) (reads : value.text? = some text)
    (given : leaf.pattern = some (.proper labelled))
    (twisted : labelled.pattern.occursIn text = .error .twistedGroup)
    : leaf.Stops value
  | minimum {number bound}
    (matched
      : Conforms .builtIn { leaf with minimum := none, maximum := none, format := none }
          (.number number))
    (numeric : leaf.type.isNumeric) (given : leaf.minimum = some bound)
    (unordered : number.Unordered bound)
    : leaf.Stops (.number number)
  | maximum {number bound}
    (high : Conforms .builtIn { leaf with maximum := none, format := none } (.number number))
    (numeric : leaf.type.isNumeric) (given : leaf.maximum = some bound)
    (unordered : number.Unordered bound)
    : leaf.Stops (.number number)
  | format {value label text fault}
    (within : Conforms .builtIn { leaf with format := none } value)
    (given : leaf.format = some (.proper label)) (regex : label.word = FormatRegistry.regex)
    (reads : value.text? = some text) (stopped : Pattern.compile text = .error (.fault fault))
    : leaf.Stops value

/-- The check of a leaf whose pattern has been read has an answer on exactly the values that it
does not stop at. -/
theorem complaint_returns_iff (read : ∀ stray, leaf.pattern ≠ some (.stray stray))
    : Returns (leaf.complaint? .builtIn value) ↔ ¬leaf.Stops value := by
  rw [complaint_returns_iff_checks, typeComplaint_returns_iff, enumerationComplaint_returns_iff,
    textComplaint_returns_iff read, numberComplaint_returns_iff, formatComplaint_returns_iff]
  constructor
  · intro returned stops
    obtain ⟨known, among, searched, ordered, told⟩ := returned
    cases stops with
    | kind asked unknown =>
        have known := known asked
        rw [unknown] at known
        exact not_returns_error _ known
    | enumeration typed listed differ apart signalling =>
        have compared := Value.isAmong_returns_iff.mp (among typed _ listed) _ _ _ rfl differ
        exact Value.isOrEquals_returns_iff.mp compared _ _ rfl rfl apart signalling
    | pattern listed string reads given twisted =>
        exact searched listed _ string reads _ given twisted
    | minimum matched numeric given unordered =>
        exact (ordered matched _ numeric rfl).1 _ given unordered
    | maximum high numeric given unordered =>
        obtain ⟨matched, least⟩ := conforms_upToMinimum_iff.mp high
        exact (ordered matched _ numeric rfl).2 (least _ numeric rfl) _ given unordered
    | format within given regex reads stopped =>
        exact told within _ given regex _ reads _ stopped
  · intro free
    refine ⟨?kind, ?enumeration, ?pattern, ?bounds, ?format⟩
    case kind =>
      intro asked
      by_contra fails
      obtain ⟨fault, unknown⟩ := not_returns_iff.mp fails
      exact free (.kind asked unknown)
    case enumeration =>
      intro typed members given
      refine Value.isAmong_returns_iff.mpr fun before member after same differ => ?_
      refine Value.isOrEquals_returns_iff.mpr fun number other is known apart signalling => ?_
      subst is same known
      exact free (.enumeration typed given differ apart signalling)
    case pattern =>
      intro listed text string reads labelled given twisted
      exact free (.pattern listed string reads given twisted)
    case bounds =>
      intro matched number numeric same
      subst same
      constructor
      · intro bound given unordered
        exact free (.minimum matched numeric given unordered)
      · intro least bound given unordered
        have high := conforms_upToMinimum_iff.mpr
          ⟨matched, fun number' _ same => Value.number.inj same ▸ least⟩
        exact free (.maximum high numeric given unordered)
    case format =>
      intro within label given regex text reads fault stopped
      exact free (.format within given regex reads stopped)

end Leaf

end Assay

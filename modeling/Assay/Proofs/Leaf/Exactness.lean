import Assay.Proofs.Leaf.Bounds

/-! Leaves of numbers decide by the values of numbers alone. Whether a value, a bound or a member is
an integer, a binary or a decimal number makes no difference, and neither does the sign of zero.
-/

namespace Assay

namespace Number

/-- Two numbers of any classes stand at one place of the extended rational line. No mark for no
number has the same value as anything. -/
def SameValue (number other : Number)
    : Prop :=
  ∃ place, number.place? = some place ∧ other.place? = some place

variable {number number' other other' : Number}

theorem sameValue_refl_iff
    : number.SameValue number ↔ number.place? ≠ none := by
  rw [Option.ne_none_iff_exists']
  exact exists_congr fun place => and_self_iff

/-- Numbers are ordered as any others of the same values. -/
theorem SameValue.order_eq (same : number.SameValue number') (same' : other.SameValue other')
    : ∃ order, number.order? other = some order ∧ number'.order? other' = some order := by
  obtain ⟨first, here, there⟩ := same
  obtain ⟨second, here', there'⟩ := same'
  refine ⟨compare first second, ?_, ?_⟩
  · rw [order?_eq_compare, here, here']
    rfl
  · rw [order?_eq_compare, there, there']
    rfl

theorem not_isSignalling_of_place {place : Place} (stands : number.place? = some place)
    : number.isSignalling = false := by
  cases number with
  | int | float => rfl
  | decimal value =>
      cases value with
      | nan => cases stands
      | infinite | finite => rfl
  | complex real imaginary => cases stands

/-- What stands somewhere is no mark, so it is told from others by its value alone. -/
theorem not_isSame_of_place {place : Place} (stands : number.place? = some place)
    : number.isSame other = false := by
  have objectless : number.object? = none := by
    cases number with
    | int => rfl
    | float value | decimal value =>
        cases value with
        | nan => cases stands
        | infinite | finite => rfl
    | complex real imaginary => cases stands
  simp [isSame, objectless]

/-- What stands somewhere is its own real part. -/
theorem real_of_place {place : Place} (stands : number.place? = some place)
    : number.real = number ∧ number.imaginary = .int 0 := by
  cases number with
  | int | float | decimal => exact ⟨rfl, rfl⟩
  | complex real imaginary => cases stands

/-- Numbers that stand somewhere are equal if they are ordered as equals. -/
theorem equal_of_place {place place' : Place} (stands : number.place? = some place)
    (stands' : other.place? = some place')
    : number.equal other = .ok (number.order? other == some .eq) := by
  obtain ⟨real, imaginary⟩ := real_of_place stands
  obtain ⟨real', imaginary'⟩ := real_of_place stands'
  have level : (Number.int 0).order? (.int 0) = some .eq := rfl
  rw [equal, not_isSignalling_of_place stands, not_isSignalling_of_place stands', real, imaginary,
    real', imaginary', level]
  rfl

/-- Numbers are told to be equal as any others of the same values. -/
theorem SameValue.equal_eq (same : number.SameValue number') (same' : other.SameValue other')
    : ∃ equal, number.equal other = .ok equal ∧ number'.equal other' = .ok equal := by
  obtain ⟨order, here, there⟩ := same.order_eq same'
  obtain ⟨_, left, right⟩ := same
  obtain ⟨_, left', right'⟩ := same'
  refine ⟨some order == some .eq, ?_, ?_⟩
  · rw [equal_of_place left left', here]
  · rw [equal_of_place right right', there]

/-- Numbers are compared as any others of the same values. -/
theorem SameValue.compared_eq (same : number.SameValue number') (same' : other.SameValue other')
    (apart apart' : Fault) (holds : Ordering → Bool)
    : ∃ answer,
        compared apart holds number other = .ok answer
        ∧ compared apart' holds number' other' = .ok answer := by
  obtain ⟨order, here, there⟩ := same.order_eq same'
  refine ⟨holds order, ?_, ?_⟩
  · rw [compared, here]
  · rw [compared, there]

end Number

/-- A member of an enumeration stands for another one: a number for one of the same value, and
anything else for itself. -/
inductive Value.SameMember : Value → Value → Prop
  | number {number other : Number} (same : number.SameValue other)
    : SameMember (.number number) (.number other)
  | other {value : Value} (plain : ∀ number, value ≠ .number number) : SameMember value value

theorem Value.number_equals_of_plain {number : Number} {member : Value}
    (plain : ∀ number, member ≠ .number number)
    : (Value.number number).equals member = .ok false := by
  cases member with
  | number other => exact absurd rfl (plain other)
  | _ => rfl

/-- A number that stands somewhere is found among others by its value alone. -/
theorem Value.number_isOrEquals_of_place {number : Number} {place : Number.Place} {member : Value}
    (stands : number.place? = some place)
    : (Value.number number).isOrEquals member = (Value.number number).equals member := by
  have apart : (Value.number number).isSame member = false := by
    cases member with
    | number other => exact Number.not_isSame_of_place stands
    | _ => rfl
  rw [isOrEquals, apart]
  rfl

-----------------------------------------------------------------------------------------
-- Outcomes that agree
-----------------------------------------------------------------------------------------

/-- Two checks have an answer, and one of them complains exactly if the other does. -/
def Agree (first second : Except Fault (Option Complaint))
    : Prop :=
  ∃ found other, first = .ok found ∧ second = .ok other ∧ (found = none ↔ other = none)

theorem agree_ok_none
    : Agree (.ok none) (.ok none) :=
  ⟨none, none, rfl, rfl, Iff.rfl⟩

/-- Questions with one answer decide alike between nothing and a complaint. -/
theorem agree_noneIf {question other : Except Fault Bool} {complaint complaint' : Complaint}
    {answer : Bool}
    (here : question = .ok answer) (there : other = .ok answer)
    : Agree (do if ← question then return none else return some complaint)
        (do if ← other then return none else return some complaint') := by
  subst here there
  cases answer with
  | true => exact agree_ok_none
  | false => exact ⟨some complaint, some complaint', rfl, rfl, by simp⟩

/-- Two searches, of which the second one is made if the first has found nothing, agree if both of
them do. -/
theorem agree_orElse {first first' : Except Fault (Option Complaint)}
    {next next' : Option Complaint → Except Fault (Option Complaint)} (here : Agree first first')
    (later : Agree (next none) (next' none))
    (keeps : ∀ complaint, next (some complaint) = .ok (some complaint))
    (keeps' : ∀ complaint, next' (some complaint) = .ok (some complaint))
    : Agree (first >>= next) (first' >>= next') := by
  obtain ⟨found, found', rfl, rfl, same⟩ := here
  cases found with
  | none =>
      obtain rfl := same.mp rfl
      exact later
  | some complaint =>
      cases found' with
      | none => cases same.mpr rfl
      | some complaint' =>
          exact ⟨some complaint, some complaint', keeps complaint, keeps' complaint', by simp⟩

/-- A built-in format treats all numbers alike. -/
theorem FormatRegistry.builtIn_check_number (name : String)
    : ∃ passed, ∀ number, FormatRegistry.builtIn.check name (.number number) = .ok passed := by
  have alike
      : ∀ entry ∈ FormatRegistry.builtIn.entries,
          ∃ passed, ∀ number, entry.2.check (.number number) = .ok passed := by
    simp only [FormatRegistry.builtIn, List.forall_mem_cons, List.not_mem_nil, false_imp_iff,
      implies_true, and_true]
    -- those of texts refuse every number, and the one of numbers passes them all
    exact ⟨⟨false, fun _ => rfl⟩, ⟨false, fun _ => rfl⟩, ⟨false, fun _ => rfl⟩,
      ⟨false, fun _ => rfl⟩, ⟨false, fun _ => rfl⟩, ⟨true, fun _ => rfl⟩⟩
  unfold FormatRegistry.check
  cases found : FormatRegistry.builtIn.get? name with
  | none => exact ⟨true, fun _ => rfl⟩
  | some format =>
      obtain ⟨before, after, listed, -⟩ := List.lookup_eq_some_iff.mp found
      exact alike (name, format) (by simp [listed])

namespace Leaf

/-- Two lists of checks agree if their checks agree one by one. -/
theorem firstComplaint_agree {value other : Value}
    {checks checks' : List (Value → Except Fault (Option Complaint))}
    (agree : List.Forall₂ (fun check check' => Agree (check value) (check' other)) checks checks')
    : Agree (firstComplaint? checks value) (firstComplaint? checks' other) := by
  induction agree with
  | nil => exact agree_ok_none
  | cons here _ ih =>
      rw [firstComplaint?, firstComplaint?]
      exact agree_orElse here ih (fun _ => rfl) (fun _ => rfl)

-----------------------------------------------------------------------------------------
-- The checks of numbers
-----------------------------------------------------------------------------------------

/-- Two leaves differ in the classes of their numbers only: the bounds and the members of one have
the values of those of the other. -/
structure Exchanged (leaf other : Leaf) : Prop where
  minimum : Option.Rel Number.SameValue leaf.minimum other.minimum
  maximum : Option.Rel Number.SameValue leaf.maximum other.maximum
  enumeration : Option.Rel (List.Forall₂ Value.SameMember) leaf.enumeration other.enumeration
  rest
    : other = { leaf with
        minimum := other.minimum, maximum := other.maximum, enumeration := other.enumeration }

variable {leaf other : Leaf} {number number' : Number}

theorem isAmong_agree {members members' : List Value} (same : number.SameValue number')
    (listed : List.Forall₂ Value.SameMember members members')
    : ∃ among,
        (Value.number number).isAmong members = .ok among
        ∧ (Value.number number').isAmong members' = .ok among := by
  induction listed with
  | nil => exact ⟨false, rfl, rfl⟩
  | @cons member member' rest rest' here _ ih =>
      obtain ⟨among, later, later'⟩ := ih
      have first
          : ∃ equal,
              (Value.number number).isOrEquals member = .ok equal
              ∧ (Value.number number').isOrEquals member' = .ok equal := by
        obtain ⟨place, stands, stands'⟩ := same
        rw [Value.number_isOrEquals_of_place stands, Value.number_isOrEquals_of_place stands']
        cases here with
        | number same' => exact Number.SameValue.equal_eq ⟨place, stands, stands'⟩ same'
        | other plain =>
            exact ⟨false, Value.number_equals_of_plain plain, Value.number_equals_of_plain plain⟩
      obtain ⟨equal, equals, equals'⟩ := first
      simp only [Value.isAmong, equals, equals', ok_bind, later, later']
      cases equal with
      | true => exact ⟨true, rfl, rfl⟩
      | false => exact ⟨among, rfl, rfl⟩

/-- Comparisons with a bound agree with those of the same values. -/
theorem bound_agree {exclusive : Bool} {bound bound' : Number} {broken broken' : Bool → Complaint}
    (same : number.SameValue number') (same' : bound.SameValue bound')
    (apart apart' other other' : Fault)
    : Agree
        (do
          let level ←
            if exclusive then Number.compared apart (· != .gt) number bound else pure false
          if level then return some (broken true)
          if ← Number.compared other (· == .lt) number bound then return some (broken false)
          else return none)
        (do
          let level ←
            if exclusive then Number.compared apart' (· != .gt) number' bound' else pure false
          if level then return some (broken' true)
          if ← Number.compared other' (· == .lt) number' bound' then return some (broken' false)
          else return none) := by
  obtain ⟨level, here, there⟩ := same.compared_eq same' apart apart' (· != .gt)
  obtain ⟨below, less, less'⟩ := same.compared_eq same' other other' (· == .lt)
  simp only [here, there, less, less']
  cases exclusive <;> cases level <;> cases below <;>
    first | exact agree_ok_none | exact ⟨_, _, rfl, rfl, by simp⟩

theorem enumerationComplaint_agree (exchanged : leaf.Exchanged other)
    (same : number.SameValue number')
    : Agree (leaf.enumerationComplaint? (.number number))
        (other.enumerationComplaint? (.number number')) := by
  have related := exchanged.enumeration
  unfold enumerationComplaint?
  generalize leaf.enumeration = members, other.enumeration = members' at related
  cases related with
  | none => exact agree_ok_none
  | some listed =>
      obtain ⟨among, here, there⟩ := isAmong_agree same listed
      exact agree_noneIf here there

theorem minimumComplaint_agree (exchanged : leaf.Exchanged other)
    (same : number.SameValue number')
    : Agree (leaf.minimumComplaint? (.number number) number)
        (other.minimumComplaint? (.number number') number') := by
  have flag : other.exclusiveMinimum = leaf.exclusiveMinimum := by rw [exchanged.rest]
  have related := exchanged.minimum
  unfold minimumComplaint?
  rw [flag]
  generalize leaf.minimum = bound, other.minimum = bound' at related
  cases related with
  | none => exact agree_ok_none
  | some same' => exact bound_agree same same' _ _ _ _

theorem maximumComplaint_agree (exchanged : leaf.Exchanged other)
    (same : number.SameValue number')
    : Agree (leaf.maximumComplaint? (.number number) number)
        (other.maximumComplaint? (.number number') number') := by
  have flag : other.exclusiveMaximum = leaf.exclusiveMaximum := by rw [exchanged.rest]
  have related := exchanged.maximum
  unfold maximumComplaint?
  rw [flag]
  generalize leaf.maximum = bound, other.maximum = bound' at related
  cases related with
  | none => exact agree_ok_none
  | some same' => exact bound_agree same' same _ _ _ _

/-- A number is compared with the minimum, and then with the maximum. -/
theorem numberComplaint_agree (exchanged : leaf.Exchanged other) (same : number.SameValue number')
    : Agree (leaf.numberComplaint? (.number number))
        (other.numberComplaint? (.number number')) := by
  have type : other.type = leaf.type := by rw [exchanged.rest]
  unfold numberComplaint?
  rw [type]
  cases leaf.type.isNumeric with
  | false => exact agree_ok_none
  | true =>
      exact agree_orElse (minimumComplaint_agree exchanged same)
        (maximumComplaint_agree exchanged same) (fun _ => rfl) (fun _ => rfl)

theorem formatComplaint_agree (exchanged : leaf.Exchanged other)
    : Agree (leaf.formatComplaint? .builtIn (.number number))
        (other.formatComplaint? .builtIn (.number number')) := by
  have format : other.format = leaf.format := by rw [exchanged.rest]
  unfold formatComplaint?
  rw [format]
  cases leaf.format with
  | none => exact agree_ok_none
  | some slot =>
      cases slot with
      | stray value => exact agree_ok_none
      | proper label =>
          obtain ⟨passed, passes⟩ := FormatRegistry.builtIn_check_number label.word
          exact agree_noneIf (passes number) (passes number')

/-- Leaves of numbers that differ in the classes of their numbers find something in one number
exactly if they do in another one of the same value. -/
theorem complaint_agree (type : leaf.type = .number) (exchanged : leaf.Exchanged other)
    (same : number.SameValue number')
    : Agree (leaf.complaint? .builtIn (.number number))
        (other.complaint? .builtIn (.number number')) := by
  have type' : other.type = .number := by rw [exchanged.rest, type]
  have typed (leaf : Leaf) {number : Number} {place : Number.Place} (type : leaf.type = .number)
      (stands : number.place? = some place)
      : leaf.typeComplaint? (.number number) = .ok none := by
    rw [typeComplaint?, type]
    cases number with
    | int | float | decimal => rfl
    | complex real imaginary => cases stands
  have textless (leaf : Leaf) (number : Number) (type : leaf.type = .number)
      : leaf.textComplaint? (.number number) = .ok none := by
    rw [textComplaint?, type]
  refine firstComplaint_agree (.cons ?_ (.cons (enumerationComplaint_agree exchanged same)
    (.cons ?_ (.cons (numberComplaint_agree exchanged same)
      (.cons (formatComplaint_agree exchanged) .nil)))))
  · obtain ⟨place, stands, stands'⟩ := same
    rw [typed leaf type stands, typed other type' stands']
    exact agree_ok_none
  · rw [textless leaf number type, textless other number' type']
    exact agree_ok_none

/-- No bound of a leaf is a mark for no number, and no member is. -/
structure Markless (leaf : Leaf) : Prop where
  minimum : ∀ bound, leaf.minimum = some bound → bound.place? ≠ none
  maximum : ∀ bound, leaf.maximum = some bound → bound.place? ≠ none
  enumeration
    : ∀ members,
        leaf.enumeration = some members
        → ∀ number, Value.number number ∈ members → number.place? ≠ none

theorem Markless.exchanged (markless : leaf.Markless)
    : leaf.Exchanged leaf := by
  refine ⟨?minimum, ?maximum, ?enumeration, rfl⟩
  case minimum =>
    cases set : leaf.minimum with
    | none => exact .none
    | some bound => exact .some (Number.sameValue_refl_iff.mpr (markless.minimum bound set))
  case maximum =>
    cases set : leaf.maximum with
    | none => exact .none
    | some bound => exact .some (Number.sameValue_refl_iff.mpr (markless.maximum bound set))
  case enumeration =>
    cases set : leaf.enumeration with
    | none => exact .none
    | some members =>
        refine .some (List.forall₂_same.mpr fun member listed => ?_)
        cases member with
        | number number =>
            exact .number (Number.sameValue_refl_iff.mpr
              (markless.enumeration members set number listed))
        | _ => exact .other (by simp)

/-- A leaf of numbers without marks for no number has an answer about every number that stands
somewhere. Of two numbers with the same value it accepts both or neither, and so do two leaves one
of which has bounds and members of the same values as the other, whatever the classes of the numbers
are. -/
theorem verdict_depends_on_value {leaf : Leaf} (type : leaf.type = .number)
    (markless : leaf.Markless)
    : (∀ number, number.place? ≠ none → Returns (leaf.check .builtIn (.number number)))
      ∧ (∀ number number' : Number,
          number.SameValue number'
          → (leaf.check .builtIn (.number number) = .ok []
            ↔ leaf.check .builtIn (.number number') = .ok []))
      ∧ ∀ (other : Leaf) (number : Number),
          leaf.Exchanged other
          → number.place? ≠ none
          → (leaf.check .builtIn (.number number) = .ok []
            ↔ other.check .builtIn (.number number) = .ok []) := by
  have verdict (other : Leaf) (number number' : Number) (exchanged : leaf.Exchanged other)
      (same : number.SameValue number')
      : leaf.check .builtIn (.number number) = .ok []
        ↔ other.check .builtIn (.number number') = .ok [] := by
    obtain ⟨found, found', here, there, alike⟩ := complaint_agree type exchanged same
    rw [check_eq_nil_iff, check_eq_nil_iff, here, there, Except.ok.injEq, Except.ok.injEq]
    exact alike
  refine ⟨?_, ?_, ?_⟩
  · intro number stands
    have same := Number.sameValue_refl_iff.mpr stands
    obtain ⟨found, -, here, -⟩ := complaint_agree type markless.exchanged same
    rw [check, here]
    cases found with
    | none => exact returns_pure _
    | some complaint => exact returns_pure _
  · intro number number' same
    exact verdict leaf number number' markless.exchanged same
  · intro other number exchanged stands
    exact verdict other number number exchanged (Number.sameValue_refl_iff.mpr stands)

/-- A leaf with a bound beyond the whole numbers that are all binary ones, and with an integer and a
decimal number enumerated, decides by the values of numbers. -/
theorem verdicts_beyond_binary_integers
    : ∃ leaf : Leaf,
        leaf.type = .number
        ∧ leaf.Markless
        ∧ leaf.minimum = some (.int 9007199254740993)
        ∧ (∀ number, number.place? ≠ none → Returns (leaf.check .builtIn (.number number)))
        ∧ (∀ number number' : Number,
            number.SameValue number'
            → (leaf.check .builtIn (.number number) = .ok []
              ↔ leaf.check .builtIn (.number number') = .ok []))
        ∧ ∀ (other : Leaf) (number : Number),
            leaf.Exchanged other
            → number.place? ≠ none
            → (leaf.check .builtIn (.number number) = .ok []
              ↔ other.check .builtIn (.number number) = .ok []) := by
  let leaf : Leaf := {
    type := .number, minimum := some (.int 9007199254740993), exclusiveMinimum := true,
    enumeration := some [.int 9007199254740994, .number (.decimal (.finite false 25 (-1)))] }
  have markless : leaf.Markless := by
    refine ⟨?minimum, ?maximum, ?enumeration⟩
    case minimum =>
      intro bound set
      obtain rfl := Option.some.inj set
      exact Option.some_ne_none _
    case maximum =>
      intro bound set
      cases set
    case enumeration =>
      intro members set number listed
      obtain rfl := Option.some.inj set
      simp only [List.mem_cons, List.not_mem_nil, or_false] at listed
      rcases listed with is | is
      · obtain rfl := Value.number.inj is
        exact Option.some_ne_none _
      · obtain rfl := Value.number.inj is
        exact Option.some_ne_none _
  exact ⟨leaf, rfl, markless, rfl, verdict_depends_on_value rfl markless⟩

end Leaf

end Assay

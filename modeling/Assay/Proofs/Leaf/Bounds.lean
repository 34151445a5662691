import Assay.Proofs.Leaf.Stopping
import Assay.Proofs.Number.Order

/-! The bounds of leaves of numbers. A number that is accepted stands within the bounds on the
extended rational line, whatever classes of numbers meet, but for the binary marks for no number: no
bound keeps them out, and as a bound they keep nothing out that is not decimal.
-/

namespace Assay

-----------------------------------------------------------------------------------------
-- Numbers against bounds
-----------------------------------------------------------------------------------------

/-- An outcome is the answer that a condition settles exactly if there is an answer and the
condition holds. -/
theorem Settles.eq_ok_iff {α : Type} {outcome : Except Fault α} {answer : α} {condition : Prop}
    (settles : Settles outcome answer condition)
    : outcome = .ok answer ↔ Returns outcome ∧ condition := by
  constructor
  · intro returned
    exact ⟨⟨answer, returned⟩, (settles answer returned).mp rfl⟩
  · intro ⟨⟨result, returned⟩, holds⟩
    obtain rfl := (settles result returned).mpr holds
    exact returned

namespace Number

/-- A number stands at the place of another one or before it, and before it if strictly so. -/
def Precedes (strictly : Bool) (number other : Number)
    : Prop :=
  ∃ first second,
    number.place? = some first
    ∧ other.place? = some second
    ∧ first ≤ second
    ∧ (strictly → first < second)

/-- A number is an integer or a binary one. -/
structure IsPlain (number : Number) : Prop where
  notDecimal : number.isDecimal = false
  notComplex : number.isComplex = false

/-- A number is a binary mark for no number. -/
def IsBinaryMark (number : Number)
    : Prop :=
  ∃ object, number = .float (.nan object)

/-- Two numbers have no order and are compared nevertheless: one of them is a binary mark for no
number, and both are integers or binary. -/
structure Unranked (number other : Number) : Prop where
  mark : number.IsBinaryMark ∨ other.IsBinaryMark
  first : number.IsPlain
  second : other.IsPlain

/-- Among integers and binary numbers, only a binary mark stands nowhere. -/
theorem isBinaryMark_of_unplaced {number : Number} (plain : number.IsPlain)
    (unplaced : number.place? = none)
    : number.IsBinaryMark := by
  cases number with
  | int value => nomatch unplaced
  | float value =>
      cases value with
      | nan object => exact ⟨object, rfl⟩
      | infinite | finite => nomatch unplaced
  | decimal value => nomatch plain.notDecimal
  | complex real imaginary => nomatch plain.notComplex

/-- Numbers that both stand somewhere are compared by their places. -/
theorem notBelow_iff_precedes {exclusive : Bool} {number bound : Number} {first second : Place}
    (here : number.place? = some first) (there : bound.place? = some second)
    : number.NotBelow exclusive bound ↔ bound.Precedes exclusive number := by
  have order : number.order? bound = some (compare first second) := by
    rw [order?_eq_compare, here, there]
    rfl
  have precedes : bound.Precedes exclusive number
      ↔ second ≤ first ∧ (exclusive → second < first) := by
    simp [Precedes, here, there]
  rw [precedes, NotBelow, order]
  simp only [ne_eq, Option.some.injEq, compare_lt_iff_lt, compare_eq_iff_eq, not_lt]
  refine and_congr_right fun least => imp_congr_right fun _ => ?_
  exact ⟨fun apart => lt_of_le_of_ne least (Ne.symm apart), fun below => below.ne'⟩

/-- Numbers of which one stands nowhere are compared exactly if they are unranked. -/
theorem not_unordered_iff_unranked {number bound : Number}
    (unplaced : number.place? = none ∨ bound.place? = none)
    : ¬number.Unordered bound ↔ number.Unranked bound := by
  have mark : number.extent? = none ∨ bound.extent? = none := by
    simpa only [place?_eq, Option.map_eq_none_iff] using unplaced
  constructor
  · intro ordered
    have others : ¬((number.isComplex ∨ bound.isComplex) ∨ number.isDecimal ∨ bound.isDecimal) :=
      fun classes => ordered ⟨mark, classes⟩
    simp only [not_or, Bool.not_eq_true] at others
    obtain ⟨⟨complex, complex'⟩, decimal, decimal'⟩ := others
    have first : number.IsPlain := ⟨decimal, complex⟩
    have second : bound.IsPlain := ⟨decimal', complex'⟩
    refine ⟨?_, first, second⟩
    exact unplaced.imp (isBinaryMark_of_unplaced first) (isBinaryMark_of_unplaced second)
  · intro unranked unordered
    rcases unordered.classes with (complex | complex) | decimal | decimal
    · exact Bool.false_ne_true (unranked.first.notComplex.symm.trans complex)
    · exact Bool.false_ne_true (unranked.second.notComplex.symm.trans complex)
    · exact Bool.false_ne_true (unranked.first.notDecimal.symm.trans decimal)
    · exact Bool.false_ne_true (unranked.second.notDecimal.symm.trans decimal)

/-- A number is compared with a bound and not found below it exactly if the bound precedes it, or
the two are unranked. -/
theorem ordered_and_notBelow_iff {exclusive : Bool} {number bound : Number}
    : (¬number.Unordered bound ∧ number.NotBelow exclusive bound)
      ↔ bound.Precedes exclusive number ∨ number.Unranked bound := by
  by_cases unplaced : number.place? = none ∨ bound.place? = none
  · have apart : ¬bound.Precedes exclusive number := by
      intro precedes
      obtain ⟨second, first, there, here, -⟩ := precedes
      rcases unplaced with nowhere | nowhere
      · nomatch nowhere.symm.trans here
      · nomatch nowhere.symm.trans there
    have unordered : number.order? bound = none := by
      rw [order_eq_none_iff]
      simpa only [place?_eq, Option.map_eq_none_iff] using unplaced
    simp [not_unordered_iff_unranked unplaced, apart, NotBelow, unordered]
  · rw [not_or, ← ne_eq, ← ne_eq, Option.ne_none_iff_exists', Option.ne_none_iff_exists']
      at unplaced
    obtain ⟨⟨first, here⟩, second, there⟩ := unplaced
    have ordered : ¬number.Unordered bound := by
      intro unordered
      have mark := unordered.mark
      rw [← Option.map_eq_none_iff (f := Extent.place),
        ← Option.map_eq_none_iff (f := Extent.place), ← place?_eq, ← place?_eq, here, there] at mark
      simp at mark
    have ranked : ¬number.Unranked bound := by
      intro unranked
      rcases unranked.mark with ⟨object, rfl⟩ | ⟨object, rfl⟩
      · nomatch here
      · nomatch there
    simp [ordered, ranked, notBelow_iff_precedes here there]

end Number

-----------------------------------------------------------------------------------------
-- Leaves of numbers
-----------------------------------------------------------------------------------------

namespace Leaf

/-- A number keeps the bounds of a leaf: the minimum precedes it and it precedes the maximum,
strictly if the bound is exclusive, unless a bound and the number are unranked. -/
structure KeepsBounds (leaf : Leaf) (number : Number) : Prop where
  minimum
    : ∀ bound,
        leaf.minimum = some bound
        → bound.Precedes leaf.exclusiveMinimum number ∨ number.Unranked bound
  maximum
    : ∀ bound,
        leaf.maximum = some bound
        → number.Precedes leaf.exclusiveMaximum bound ∨ bound.Unranked number

variable {formats : FormatRegistry} {leaf : Leaf} {value : Value}

theorem check_eq_nil_iff
    : leaf.check formats value = .ok [] ↔ leaf.complaint? formats value = .ok none := by
  unfold check
  cases leaf.complaint? formats value with
  | error fault => simp
  | ok complaint => cases complaint <;> simp [pure, Except.pure]

/-- Checks tried in order find nothing exactly if none of them does. -/
theorem firstComplaint_eq_none_iff {checks : List (Value → Except Fault (Option Complaint))}
    : firstComplaint? checks value = .ok none ↔ ∀ check ∈ checks, check value = .ok none := by
  induction checks with
  | nil => simp [firstComplaint?]
  | cons check rest ih =>
      rw [firstComplaint?, List.forall_mem_cons, ← ih]
      cases found : check value with
      | error fault => simp
      | ok complaint => cases complaint <;> simp [pure, Except.pure]

theorem minimumComplaint_eq_none_iff {number : Number}
    : leaf.minimumComplaint? value number = .ok none
      ↔ ∀ bound,
          leaf.minimum = some bound
          → bound.Precedes leaf.exclusiveMinimum number ∨ number.Unranked bound := by
  rw [(leaf.minimumComplaint_settles value number).eq_ok_iff, minimumComplaint_returns_iff,
    ← forall_and]
  refine forall_congr' fun bound => ?_
  rw [← imp_and, Number.ordered_and_notBelow_iff]

theorem maximumComplaint_eq_none_iff {number : Number}
    : leaf.maximumComplaint? value number = .ok none
      ↔ ∀ bound,
          leaf.maximum = some bound
          → number.Precedes leaf.exclusiveMaximum bound ∨ bound.Unranked number := by
  rw [(leaf.maximumComplaint_settles value number).eq_ok_iff, maximumComplaint_returns_iff,
    ← forall_and]
  refine forall_congr' fun bound => ?_
  rw [← imp_and, ← Number.ordered_and_notBelow_iff, Number.unordered_symm]

/-- Nothing is complained about a number exactly if it keeps the bounds. -/
theorem numberComplaint_eq_none_iff {number : Number} (numeric : leaf.type.isNumeric)
    : leaf.numberComplaint? (.number number) = .ok none ↔ leaf.KeepsBounds number := by
  have bounds : leaf.numberComplaint? (.number number) = .ok none
      ↔ leaf.minimumComplaint? (.number number) number = .ok none
        ∧ leaf.maximumComplaint? (.number number) number = .ok none := by
    simp only [numberComplaint?, numeric]
    cases least : leaf.minimumComplaint? (.number number) number with
    | error fault => simp
    | ok complaint => cases complaint <;> simp [pure, Except.pure]
  rw [bounds, minimumComplaint_eq_none_iff, maximumComplaint_eq_none_iff]
  exact ⟨fun kept => ⟨kept.1, kept.2⟩, fun kept => ⟨kept.minimum, kept.maximum⟩⟩

theorem isNumber_of_hasType {type : SimpleType} (numeric : type.isNumeric)
    (typed : value.HasType type)
    : ∃ number, value = .number number := by
  cases typed with
  | number | integer => exact ⟨_, rfl⟩
  | any | null | boolean | string => nomatch numeric

/-- No type of numbers accepts a complex number. -/
theorem not_hasType_of_complex {type : SimpleType} {real imaginary : Binary64}
    (numeric : type.isNumeric)
    : ¬(Value.number (.complex real imaginary)).HasType type := by
  intro typed
  cases typed with
  | any => nomatch numeric
  | number real => exact real rfl
  | string reads => nomatch reads

/-- A type of numbers accepts numbers alone. -/
theorem typeComplaint_eq_none_iff (numeric : leaf.type.isNumeric)
    : leaf.typeComplaint? value = .ok none
      ↔ ∃ number, value = .number number ∧ value.HasType leaf.type := by
  rw [(leaf.typeComplaint_settles value).eq_ok_iff, typeComplaint_returns_iff]
  constructor
  · intro ⟨_, typed⟩
    obtain ⟨number, is⟩ := isNumber_of_hasType numeric typed
    exact ⟨number, is, typed⟩
  · intro accepted
    obtain ⟨number, rfl, typed⟩ := accepted
    refine ⟨fun _ => ?_, typed⟩
    cases number with
    | int | float | decimal => exact returns_ok _
    | complex real imaginary => exact absurd typed (not_hasType_of_complex numeric)

/-- A leaf of numbers accepts exactly the numbers of its type that are enumerated, keep the bounds
and are in the format. The bounds are kept by what stands between them on the extended rational
line, and, among integers and binary numbers, by the binary marks for no number and against them: a
bound is only looked at for being broken, and an unranked number breaks none. -/
theorem accepted_iff_keepsBounds (formats : FormatRegistry) (leaf : Leaf) (value : Value)
    (numeric : leaf.type.isNumeric)
    : leaf.check formats value = .ok []
      ↔ ∃ number,
          value = .number number
          ∧ value.HasType leaf.type
          ∧ leaf.enumerationComplaint? value = .ok none
          ∧ leaf.KeepsBounds number
          ∧ leaf.formatComplaint? formats value = .ok none := by
  rw [check_eq_nil_iff, complaint?, firstComplaint_eq_none_iff]
  simp only [List.forall_mem_cons, List.not_mem_nil, false_imp_iff, implies_true, and_true,
    typeComplaint_eq_none_iff numeric]
  constructor
  · intro accepted
    obtain ⟨⟨number, rfl, typed⟩, among, -, bounds, told⟩ := accepted
    exact ⟨number, rfl, typed, among, (numberComplaint_eq_none_iff numeric).mp bounds, told⟩
  · intro kept
    obtain ⟨number, rfl, typed, among, bounds, told⟩ := kept
    refine ⟨⟨number, rfl, typed⟩, among, ?_, (numberComplaint_eq_none_iff numeric).mpr bounds, told⟩
    simp [textComplaint?, Value.text?]

/-- A leaf of numbers from zero on can be made, and accepts a binary mark for no number, although
zero does not precede it. -/
theorem mark_accepted_without_minimum_preceding
    : ofFields .builtIn [(.type, .string "number"), (.minimum, .int 0)]
        = .ok { type := .number, minimum := some (.int 0) }
      ∧ check .builtIn { type := .number, minimum := some (.int 0) } (.number (.float (.nan 0)))
        = .ok []
      ∧ ¬(Number.int 0).Precedes false (.float (.nan 0)) := by
  refine ⟨rfl, ?_, ?_⟩
  · refine (accepted_iff_keepsBounds .builtIn _ _ rfl).mpr
      ⟨.float (.nan 0), rfl, .number nofun, rfl, ?_, rfl⟩
    refine ⟨fun bound set => Or.inr ?_, nofun⟩
    obtain rfl := Option.some.inj set
    exact ⟨Or.inl ⟨0, rfl⟩, ⟨rfl, rfl⟩, ⟨rfl, rfl⟩⟩
  · intro precedes
    obtain ⟨first, second, here, there, -⟩ := precedes
    nomatch there

end Leaf

end Assay

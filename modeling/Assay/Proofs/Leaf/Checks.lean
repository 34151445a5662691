import Assay.Proofs.Leaf.Bounds

/-! The single checks that a leaf makes one after the other: the five steps of its check are eight
checks in a row, each of which finds nothing exactly if the value meets it. The first complaint is
the one of the first check that fails.
-/

namespace Assay

/-- A check of leaves. -/
inductive LeafCheck where
  | type
  | enumeration
  | pattern
  | maxLength
  | minLength
  | minimum
  | maximum
  | format
deriving DecidableEq, Repr

/-- The checks in the order in which they are made. -/
def LeafCheck.order : List LeafCheck :=
  [.type, .enumeration, .pattern, .maxLength, .minLength, .minimum, .maximum, .format]

namespace Leaf

/-- The text in a value that leaves of texts check. -/
def textOf? (leaf : Leaf) (value : Value)
    : Option String :=
  if leaf.type = .string then value.text? else none

/-- The number in a value that leaves of numbers check. -/
def numberOf? (leaf : Leaf)
    : Value → Option Number
  | .number number => if leaf.type.isNumeric then some number else none
  | _ => none

/-- A check of what is read in a value, made where something is. -/
def whereRead {α : Type} (read : Value → Option α)
    (check : Value → α → Except Fault (Option Complaint)) (value : Value)
    : Except Fault (Option Complaint) :=
  match read value with
  | some part => check value part
  | none => .ok none

/-- The complaint about a text that is too long. -/
def maxLengthComplaint? (leaf : Leaf) (value : Value) (text : String)
    : Except Fault (Option Complaint) :=
  .ok ((leaf.maxLength.filter (· < text.length)).map (.tooLong value text.length))

/-- The complaint about a text that is too short. -/
def minLengthComplaint? (leaf : Leaf) (value : Value) (text : String)
    : Except Fault (Option Complaint) :=
  .ok ((leaf.minLength.filter (text.length < ·)).map (.tooShort value text.length))

/-- The complaint of a single check. -/
def complaintOf? (formats : FormatRegistry) (leaf : Leaf)
    : LeafCheck → Value → Except Fault (Option Complaint)
  | .type => leaf.typeComplaint?
  | .enumeration => leaf.enumerationComplaint?
  | .pattern => whereRead leaf.textOf? leaf.patternComplaint?
  | .maxLength => whereRead leaf.textOf? leaf.maxLengthComplaint?
  | .minLength => whereRead leaf.textOf? leaf.minLengthComplaint?
  | .minimum => whereRead leaf.numberOf? leaf.minimumComplaint?
  | .maximum => whereRead leaf.numberOf? leaf.maximumComplaint?
  | .format => leaf.formatComplaint? formats

-----------------------------------------------------------------------------------------
-- The order of the checks
-----------------------------------------------------------------------------------------

section Order

variable {value : Value}

/-- A list of one check finds what the check does. -/
theorem firstComplaint_singleton (check : Value → Except Fault (Option Complaint))
    : firstComplaint? [check] value = check value := by
  rw [firstComplaint?]
  cases check value with
  | error fault => rfl
  | ok complaint => cases complaint <;> rfl

/-- Checks are tried up to a place, and then from there on if nothing has been found. -/
theorem firstComplaint_append (before after : List (Value → Except Fault (Option Complaint)))
    : firstComplaint? (before ++ after) value
        = firstComplaint? [firstComplaint? before, firstComplaint? after] value := by
  induction before with
  | nil =>
      rw [firstComplaint?, firstComplaint_singleton]
      rfl
  | cons check before ih =>
      rw [List.cons_append, firstComplaint?, ih]
      simp only [firstComplaint?]
      cases check value with
      | error fault => rfl
      | ok complaint => cases complaint <;> rfl

/-- A last check is made if nothing has been found before. -/
theorem firstComplaint_snoc (before : List (Value → Except Fault (Option Complaint)))
    (last : Value → Except Fault (Option Complaint))
    : firstComplaint? (before ++ [last]) value
        = firstComplaint? [firstComplaint? before, last] value := by
  have alone : firstComplaint? [last] = last := funext fun _ => firstComplaint_singleton last
  rw [firstComplaint_append, alone]

/-- A check may be replaced by several ones that find the same in their order. -/
theorem firstComplaint_flatten {checks : List (Value → Except Fault (Option Complaint))}
    {groups : List (List (Value → Except Fault (Option Complaint)))}
    (same : List.Forall₂ (fun check group => check value = firstComplaint? group value)
      checks groups)
    : firstComplaint? checks value = firstComplaint? groups.flatten value := by
  induction same with
  | nil => rfl
  | cons here later ih =>
      rw [List.flatten_cons, firstComplaint_append, firstComplaint?, firstComplaint?, here, ih,
        firstComplaint_singleton]

/-- Checks of what is read find the first complaint about it. -/
theorem firstComplaint_whereRead {α : Type} {read : Value → Option α}
    (checks : List (Value → α → Except Fault (Option Complaint)))
    : firstComplaint? (checks.map (whereRead read)) value
        = whereRead read (fun value part => firstComplaint? (checks.map (· · part)) value)
            value := by
  unfold whereRead
  induction checks with
  | nil => cases read value <;> rfl
  | cons check checks ih =>
      rw [List.map_cons, firstComplaint?]
      cases found : read value with
      | none => simpa only [found, ok_bind] using ih
      | some part =>
          simp only [found] at ih
          simp only [ih, List.map_cons, firstComplaint?]

/-- The first of several checks that finds something comes behind checks that find nothing. -/
theorem firstComplaint_eq_some {α : Type} {checks : List α}
    {find : α → Value → Except Fault (Option Complaint)} {complaint : Complaint}
    (found : firstComplaint? (checks.map find) value = .ok (some complaint))
    : ∃ before check after,
        checks = before ++ check :: after
        ∧ (∀ earlier ∈ before, find earlier value = .ok none)
        ∧ find check value = .ok (some complaint) := by
  induction checks with
  | nil => cases found
  | cons check checks ih =>
      rw [List.map_cons, firstComplaint?, bind_eq_ok_iff] at found
      obtain ⟨outcome, searched, found⟩ := found
      cases outcome with
      | some first =>
          obtain rfl := Option.some.inj (pure_eq_ok_iff.mp found)
          exact ⟨[], check, checks, rfl, by simp, searched⟩
      | none =>
          obtain ⟨before, later, after, rfl, nothing, found⟩ := ih found
          exact ⟨check :: before, later, after, rfl,
            List.forall_mem_cons.mpr ⟨searched, nothing⟩, found⟩

end Order

variable {formats : FormatRegistry} {leaf : Leaf} {value : Value}

/-- A text is searched for the pattern, and then its length is compared with both limits. -/
theorem textComplaint_eq
    : leaf.textComplaint? value
        = firstComplaint? ([leaf.patternComplaint?, leaf.maxLengthComplaint?,
            leaf.minLengthComplaint?].map (whereRead leaf.textOf?)) value := by
  -- one step of the leaf compares with both limits
  have lengths (text : String)
      : firstComplaint? [(leaf.maxLengthComplaint? · text), (leaf.minLengthComplaint? · text)] value
        = .ok (leaf.lengthComplaint? value text) := by
    rw [firstComplaint?, firstComplaint_singleton, maxLengthComplaint?, minLengthComplaint?,
      lengthComplaint?]
    cases leaf.maxLength.filter (· < text.length) with
    | some limit => rfl
    | none => cases leaf.minLength.filter (text.length < ·) <;> rfl
  rw [firstComplaint_whereRead, whereRead, textOf?]
  unfold textComplaint?
  split
  · rename_i text string reads
    rw [if_pos string, reads]
    simp only [List.map_cons, List.map_nil]
    rw [firstComplaint?, lengths]
    rfl
  · rename_i other
    by_cases string : leaf.type = .string
    · cases reads : value.text? with
      | none => rw [if_pos string]
      | some text => exact absurd reads (other text string)
    · rw [if_neg string]

/-- A number is compared with the minimum, and then with the maximum. -/
theorem numberComplaint_eq
    : leaf.numberComplaint? value
        = firstComplaint? ([leaf.minimumComplaint?, leaf.maximumComplaint?].map
            (whereRead leaf.numberOf?)) value := by
  rw [firstComplaint_whereRead, whereRead]
  unfold numberComplaint? numberOf?
  cases leaf.type.isNumeric with
  | false => cases value <;> rfl
  | true =>
      cases value with
      | number number =>
          simp only [if_true, List.map_cons, List.map_nil]
          rw [firstComplaint?, firstComplaint_singleton]
      | _ => rfl

/-- The first complaint of a leaf is the first one of its single checks. -/
theorem complaint_eq
    : leaf.complaint? formats value
        = firstComplaint? (LeafCheck.order.map (leaf.complaintOf? formats)) value := by
  have alone (check : Value → Except Fault (Option Complaint))
      : check value = firstComplaint? [check] value :=
    (firstComplaint_singleton check).symm
  exact firstComplaint_flatten (.cons (alone _) (.cons (alone _) (.cons textComplaint_eq
    (.cons numberComplaint_eq (.cons (alone _) .nil)))))

-----------------------------------------------------------------------------------------
-- What the checks find
-----------------------------------------------------------------------------------------

/-- A value meets a check. -/
def Meets (formats : FormatRegistry) (leaf : Leaf) (value : Value)
    : LeafCheck → Prop
  | .type => value.HasType leaf.type
  | .enumeration =>
      ∀ members,
        leaf.enumeration = some members → ∃ member ∈ members, value.isOrEquals member = .ok true
  | .pattern =>
      ∀ text,
        leaf.textOf? value = some text
        → ∀ labelled,
            leaf.pattern = some (.proper labelled) → labelled.pattern.occursIn text = .ok true
  | .maxLength =>
      ∀ text,
        leaf.textOf? value = some text
        → ∀ limit, leaf.maxLength = some limit → text.length ≤ limit
  | .minLength =>
      ∀ text,
        leaf.textOf? value = some text
        → ∀ limit, leaf.minLength = some limit → limit ≤ text.length
  | .minimum =>
      ∀ number,
        leaf.numberOf? value = some number
        → ∀ bound, leaf.minimum = some bound → number.NotBelow leaf.exclusiveMinimum bound
  | .maximum =>
      ∀ number,
        leaf.numberOf? value = some number
        → ∀ bound, leaf.maximum = some bound → bound.NotBelow leaf.exclusiveMaximum number
  | .format =>
      ∀ label,
        leaf.format = some (.proper label)
        → ∀ format, formats.get? label.word = some format → format.check value = .ok true

theorem whereRead_settles {α : Type} {read : Value → Option α}
    {check : Value → α → Except Fault (Option Complaint)} {condition : α → Prop}
    (settles : ∀ part, Settles (check value part) none (condition part))
    : Settles (whereRead read check value) none
        (∀ part, read value = some part → condition part) := by
  unfold whereRead
  cases read value with
  | none => exact .ok (by simp)
  | some part => exact (settles part).congr (by simp)

/-- A single check finds nothing exactly if the value meets it. -/
theorem complaintOf_settles (check : LeafCheck)
    : Settles (leaf.complaintOf? formats check value) none (leaf.Meets formats value check) := by
  cases check with
  | type => exact leaf.typeComplaint_settles value
  | enumeration => exact leaf.enumerationComplaint_settles value
  | pattern => exact whereRead_settles (leaf.patternComplaint_settles value)
  | maxLength =>
      exact whereRead_settles fun text => .ok (by simp [Option.filter_eq_none_iff])
  | minLength =>
      exact whereRead_settles fun text => .ok (by simp [Option.filter_eq_none_iff])
  | minimum => exact whereRead_settles (leaf.minimumComplaint_settles value)
  | maximum => exact whereRead_settles (leaf.maximumComplaint_settles value)
  | format => exact leaf.formatComplaint_settles formats value

/-- A value fails a check after meeting those that come before. -/
def FailsFirst (formats : FormatRegistry) (leaf : Leaf) (value : Value) (check : LeafCheck)
    : Prop :=
  ∃ before after,
    LeafCheck.order = before ++ check :: after
    ∧ (∀ earlier ∈ before, leaf.Meets formats value earlier)
    ∧ ¬leaf.Meets formats value check

/-- The first complaint of a leaf is the one of the first check that the value fails, and there is
none exactly if the value meets them all. -/
theorem complaint_of_failsFirst {found : Option Complaint}
    (returned : leaf.complaint? formats value = .ok found)
    : (found = none ∧ ∀ check, leaf.Meets formats value check)
      ∨ ∃ check complaint,
          found = some complaint
          ∧ leaf.FailsFirst formats value check
          ∧ leaf.complaintOf? formats check value = .ok (some complaint) := by
  rw [complaint_eq] at returned
  cases found with
  | some complaint =>
      obtain ⟨before, check, after, order, nothing, found⟩ := firstComplaint_eq_some returned
      refine Or.inr ⟨check, complaint, rfl, ⟨before, after, order, ?_, ?_⟩, found⟩
      · intro earlier listed
        exact (complaintOf_settles earlier none (nothing earlier listed)).mp rfl
      · intro meets
        cases (complaintOf_settles check _ found).mpr meets
  | none =>
      refine Or.inl ⟨rfl, fun check => ?_⟩
      have nothing := firstComplaint_eq_none_iff.mp returned (leaf.complaintOf? formats check) ?_
      · exact (complaintOf_settles check none nothing).mp rfl
      · exact List.mem_map_of_mem (by cases check <;> decide)

end Leaf

end Assay

import Assay.Proofs.Outcome
import Assay.Schema.Violation

/-! Locations as the texts of paths. They are put together without any separator but the marks that
segments begin with, so a path can be read off its location where no name holds such a mark.
-/

namespace Assay

/-- A segment of a location begins with a full stop or an opening bracket. -/
def isMark (c : Char)
    : Bool :=
  c == '.' || c == '['

/-- A name holds no mark, so that no segment seems to begin inside it. -/
def Unmarked (name : String)
    : Prop :=
  ∀ c ∈ name.toList, isMark c = false

instance (name : String)
    : Decidable (Unmarked name) :=
  decidable_of_iff (name.toList.all (!isMark ·)) (by simp [Unmarked])

namespace Segment

/-- A segment is a step in a document: to an item by its index, or to a member by a name without
marks. -/
def IsStep
    : Segment → Prop
  | .index n => 0 ≤ n
  | .member name => Unmarked name
  | .verbatim _ => False

/-- The text of a path. -/
def location (path : List Segment)
    : String :=
  String.join (path.map (·.text))

theorem location_cons (segment : Segment) (path : List Segment)
    : location (segment :: path) = segment.text ++ location path :=
  String.join_cons

/-- A violation that is seen from further and further up is located behind all the segments, by
induction on the path. -/
theorem location_nested (path : List Segment) (violation : Violation)
    : (path.foldr Violation.nested violation).location = location path ++ violation.location := by
  induction path with
  | nil => simp [location]
  | cons segment rest ih =>
      rw [List.foldr_cons, location_cons, String.append_assoc, ← ih]
      rfl

-----------------------------------------------------------------------------------------
-- One step
-----------------------------------------------------------------------------------------

theorem text_index (n : Nat)
    : (index n).text = "[" ++ n.repr ++ "]" := rfl

/-- The digits of an index are no marks. -/
theorem unmarked_repr (n : Nat)
    : Unmarked n.repr := by
  intro c written
  have digit : c.isDigit := by
    have listed : c ∈ Nat.toDigits 10 n := by simpa [Nat.repr] using written
    exact Nat.isDigit_of_mem_toDigits (by decide) (by decide) listed
  cases marked : isMark c with
  | false => rfl
  | true =>
      simp only [isMark, Bool.or_eq_true, beq_iff_eq] at marked
      rcases marked with rfl | rfl <;> revert digit <;> decide

/-- A step is written as a mark and characters that are none. -/
theorem exists_mark {step : Segment} (plain : step.IsStep)
    : ∃ mark body,
        step.text.toList = mark :: body
        ∧ isMark mark
        ∧ ∀ c ∈ body, isMark c = false := by
  cases step with
  | index n =>
      obtain ⟨n, rfl⟩ := Int.eq_ofNat_of_zero_le (show 0 ≤ n from plain)
      refine ⟨'[', n.repr.toList ++ [']'], by simp [text_index], rfl, ?_⟩
      intro c written
      rcases List.mem_append.mp written with digit | last
      · exact unmarked_repr n c digit
      · obtain rfl := List.mem_singleton.mp last
        rfl
  | member name => exact ⟨'.', name.toList, by simp [text], rfl, plain⟩
  | verbatim => nomatch plain

/-- Steps that are written alike are the same. -/
theorem text_injOn {step other : Segment} (plain : step.IsStep) (plain' : other.IsStep)
    (same : step.text = other.text)
    : step = other := by
  have marks : step.text.toList.head? = other.text.toList.head? := by rw [same]
  cases step with
  | index n =>
      cases other with
      | index m =>
          obtain ⟨n, rfl⟩ := Int.eq_ofNat_of_zero_le (show 0 ≤ n from plain)
          obtain ⟨m, rfl⟩ := Int.eq_ofNat_of_zero_le (show 0 ≤ m from plain')
          have digits : n.repr = m.repr := by simpa [text_index] using same
          rw [Nat.repr_injective digits]
      | member name => simp [text] at marks
      | verbatim => nomatch plain'
  | member name =>
      cases other with
      | index m => simp [text] at marks
      | member name' =>
          have names : name = name' := by simpa [text] using same
          rw [names]
      | verbatim => nomatch plain'
  | verbatim => nomatch plain

-----------------------------------------------------------------------------------------
-- Paths
-----------------------------------------------------------------------------------------

/-- Nothing comes before the first mark of a path. -/
theorem takeWhile_location {path : List Segment} (plain : ∀ step ∈ path, step.IsStep)
    : (location path).toList.takeWhile (!isMark ·) = [] := by
  cases path with
  | nil => rfl
  | cons step rest =>
      obtain ⟨mark, body, written, marked, -⟩ := exists_mark (plain step List.mem_cons_self)
      simp [location_cons, written, marked]

/-- The first step of a path is read off its location: it goes up to the second mark. -/
theorem text_of_location {step : Segment} {path : List Segment} (first : step.IsStep)
    (plain : ∀ step ∈ path, step.IsStep)
    : ∃ mark,
        (location (step :: path)).toList.head? = some mark
        ∧ step.text.toList
          = mark :: (location (step :: path)).toList.tail.takeWhile (!isMark ·) := by
  obtain ⟨mark, body, written, -, unmarked⟩ := exists_mark first
  refine ⟨mark, by simp [location_cons, written], ?_⟩
  have whole : (location (step :: path)).toList.tail = body ++ (location path).toList := by
    simp [location_cons, written]
  rw [whole, List.takeWhile_append_of_pos fun c listed => by simp [unmarked c listed],
    takeWhile_location plain, List.append_nil, written]

/-- Paths of steps that have the same location are the same, by induction on the first one. -/
theorem location_injOn {path other : List Segment} (plain : ∀ step ∈ path, step.IsStep)
    (plain' : ∀ step ∈ other, step.IsStep) (same : location path = location other)
    : path = other := by
  induction path generalizing other with
  | nil =>
      cases other with
      | nil => rfl
      | cons step rest =>
          obtain ⟨first, later⟩ := List.forall_mem_cons.mp plain'
          obtain ⟨mark, begins, -⟩ := text_of_location first later
          rw [← same] at begins
          nomatch begins
  | cons step rest ih =>
      obtain ⟨first, later⟩ := List.forall_mem_cons.mp plain
      obtain ⟨mark, begins, text⟩ := text_of_location first later
      cases other with
      | nil =>
          rw [same] at begins
          nomatch begins
      | cons step' rest' =>
          obtain ⟨first', later'⟩ := List.forall_mem_cons.mp plain'
          obtain ⟨mark', begins', text'⟩ := text_of_location first' later'
          rw [same] at begins text
          obtain rfl := Option.some.inj (begins.symm.trans begins')
          obtain rfl := text_injOn first first' (String.toList_inj.mp (text.trans text'.symm))
          rw [location_cons, location_cons, String.append_right_inj] at same
          rw [ih later later' same]

end Segment

end Assay

import Assay.Proofs.Schema.VisitOutcomes
import Mathlib

/-! Objects that ask for more. A schema whose objects require further names, or say something of
additional members where they allowed them all, visits whatever it did before, so its violations are
those from before with others between them.
-/

namespace Assay

variable {α β : Type} {related : α → α → Prop}

-----------------------------------------------------------------------------------------
-- Tightened schemas
-----------------------------------------------------------------------------------------

/-- Entries with the same name and related children. -/
def EntryRelated (related : α → α → Prop) (entry other : β × α)
    : Prop :=
  entry.1 = other.1 ∧ related entry.2 other.2

/-- What is said of additional members is said of related children, but where they were allowed
anything may be said. -/
inductive Additional.TightenedTo (related : α → α → Prop) : Additional α → Additional α → Prop
  | allow {child? tighter} : TightenedTo related ⟨.allow, child?⟩ tighter
  | deny {child? other?} : TightenedTo related ⟨.deny, child?⟩ ⟨.deny, other?⟩
  | validate {child? other?} (below : Option.Rel related child? other?)
    : TightenedTo related ⟨.validate, child?⟩ ⟨.validate, other?⟩

/-- An object node declares the same members and lists the same patterns as another one, with
related children, requires names that are among those of the other in the same order, and has no
more to say of additional members. -/
structure ObjectNode.TightenedTo (related : α → α → Prop) (node tighter : ObjectNode α)
    : Prop where
  properties : List.Forall₂ (EntryRelated related) node.properties tighter.properties
  patterns : List.Forall₂ (EntryRelated related) node.patterns tighter.patterns
  required : node.required.Sublist tighter.required
  additional : node.additional.TightenedTo related tighter.additional

/-- A schema comes of another one by tightening any of its objects, at any depth. Leaves, and the
sizes of arrays, stay as they are. -/
inductive Schema.TightenedTo : Schema → Schema → Prop
  | leaf {registry leaf} : TightenedTo (.leaf registry leaf) (.leaf registry leaf)
  | array {items tighter minItems maxItems} (below : TightenedTo items tighter)
    : TightenedTo (.array ⟨items, minItems, maxItems⟩) (.array ⟨tighter, minItems, maxItems⟩)
  | object {related : Schema → Schema → Prop} {node tighter}
    (below : ∀ child other, related child other → TightenedTo child other)
    (changed : node.TightenedTo related tighter)
    : TightenedTo (.object node) (.object tighter)

-----------------------------------------------------------------------------------------
-- Visits among others
-----------------------------------------------------------------------------------------

namespace Visit

/-- Two visits are the same, but that related children are handed the value. -/
inductive Paired (related : α → α → Prop) : Visit α → Visit α → Prop
  | report {breach} : Paired related (.report breach) (.report breach)
  | descend {edge child other value} (below : related child other)
    : Paired related (.descend edge child value) (.descend edge other value)

/-- Visits are among others in the same order, up to related children. -/
def Among (related : α → α → Prop) (visits others : List (Visit α))
    : Prop :=
  List.SublistForall₂ (Paired related) visits others

variable {run : α → Checker} {visits others : List (Visit α)}

theorem among_of_forall₂ (pairs : List.Forall₂ (Paired related) visits others)
    : Among related visits others :=
  List.sublistForall₂_iff.mpr ⟨others, pairs, .refl others⟩

theorem Among.append {more next : List (Visit α)} (left : Among related visits others)
    (right : Among related more next)
    : Among related (visits ++ more) (others ++ next) := by
  obtain ⟨first, pairs, sublist⟩ := List.sublistForall₂_iff.mp left
  obtain ⟨second, pairs', sublist'⟩ := List.sublistForall₂_iff.mp right
  exact List.sublistForall₂_iff.mpr
    ⟨first ++ second, List.rel_append pairs pairs', sublist.append sublist'⟩

/-- Visits find what is among the findings of the visits that they are among, if children find what
is among the findings of those related to them. -/
theorem outcomes_among {more : List Violation}
    (children
      : ∀ child other value more,
          related child other
          → run other value = .ok more
          → ∃ violations, run child value = .ok violations ∧ violations.Sublist more)
    (among : Among related visits others) (visited : outcomes run others = .ok more)
    : ∃ violations, outcomes run visits = .ok violations ∧ violations.Sublist more := by
  induction among generalizing more with
  | nil => exact ⟨[], rfl, List.nil_sublist more⟩
  | cons paired _ ih =>
      simp only [outcomes_cons, bind_eq_ok_iff, pure_eq_ok_iff] at visited ⊢
      obtain ⟨here, done, later, rest, rfl⟩ := visited
      obtain ⟨others, rest, sublist⟩ := ih rest
      cases paired with
      | report => exact ⟨_, ⟨here, done, others, rest, rfl⟩, sublist.append_left here⟩
      | descend below =>
          obtain ⟨inner, checked, rfl⟩ := bind_pure_eq_ok_iff.mp done
          obtain ⟨found, checked, among⟩ := children _ _ _ _ below checked
          exact ⟨_, ⟨_, bind_pure_eq_ok_iff.mpr ⟨found, checked, rfl⟩, others, rest, rfl⟩,
            (among.map _).append sublist⟩
  | cons_right _ ih =>
      simp only [outcomes_cons, bind_eq_ok_iff, pure_eq_ok_iff] at visited
      obtain ⟨here, -, later, rest, rfl⟩ := visited
      obtain ⟨violations, found, sublist⟩ := ih rest
      exact ⟨violations, found, sublist.trans (List.sublist_append_right here later)⟩

end Visit

-----------------------------------------------------------------------------------------
-- The visits of tightened nodes
-----------------------------------------------------------------------------------------

/-- Items are visited alike by related children. -/
theorem ArrayNode.visits_among {node other : ArrayNode α} (below : related node.items other.items)
    (items : List Value)
    : Visit.Among related (node.visits items) (other.visits items) := by
  refine Visit.among_of_forall₂ ?_
  simp only [visits, List.forall₂_map_left_iff, List.forall₂_map_right_iff, List.forall₂_same]
  exact fun _ _ => .descend below

namespace ObjectNode

variable {node tighter : ObjectNode α} {members : List (String × Value)}

/-- The same members are declared. -/
theorem declares_eq_of_tightenedTo (changed : node.TightenedTo related tighter) (name : String)
    : node.declares name = tighter.declares name := by
  have labels : node.properties.map (·.1.word) = tighter.properties.map (·.1.word) := by
    rw [← List.forall₂_eq_eq_eq, List.forall₂_map_left_iff, List.forall₂_map_right_iff]
    exact changed.properties.imp fun _ _ alike => congrArg Label.word alike.1
  simpa [declares, List.any_map, Function.comp_def] using
    congrArg (List.any · (· == name)) labels

/-- A declared member is visited as before, or missing although it was not required before. -/
theorem declaredVisit_among {required names : List Label} (more : required.Sublist names)
    {entry other : Label × α} (alike : EntryRelated related entry other)
    : Visit.Among related (declaredVisit required members entry)
        (declaredVisit names members other) := by
  obtain ⟨name, child⟩ := entry
  obtain ⟨_, other⟩ := other
  obtain ⟨rfl, below⟩ := alike
  simp only [declaredVisit]
  cases Value.member? members name.word with
  | some value => exact .cons (.descend below) .nil
  | none =>
      by_cases asked : required.any (·.word == name.word)
      · obtain ⟨label, listed, same⟩ := List.any_eq_true.mp asked
        have still : names.any (·.word == name.word) :=
          List.any_eq_true.mpr ⟨label, more.subset listed, same⟩
        simp only [asked, still, if_true]
        exact .cons .report .nil
      · simp only [asked]
        exact .nil

theorem declaredVisits_among {required names : List Label} (more : required.Sublist names)
    {entries others : List (Label × α)} (alike : List.Forall₂ (EntryRelated related) entries others)
    : Visit.Among related (entries.flatMap (declaredVisit required members))
        (others.flatMap (declaredVisit names members)) := by
  induction alike with
  | nil => exact .nil
  | cons entry _ ih => exact (declaredVisit_among more entry).append ih

/-- What was required without being declared or present still is. -/
theorem undeclared_sublist (changed : node.TightenedTo related tighter)
    : (node.undeclared members).Sublist (tighter.undeclared members) := by
  unfold undeclared
  simp only [declares_eq_of_tightenedTo changed]
  exact changed.required.filter _

theorem missing_among {names others : List Label} (more : names.Sublist others)
    : Visit.Among related (names.map fun name => .report (.missing name))
        (others.map fun name => .report (.missing name)) := by
  induction more with
  | slnil => exact .nil
  | cons name _ ih => exact .cons_right ih
  | cons_cons name _ ih => exact .cons .report ih

/-- The same patterns are searched for in a name, so the same are found. -/
theorem patternVisits_paired {name : String} {value : Value}
    {entries others : List (Slot Pattern × α)}
    (alike : List.Forall₂ (EntryRelated related) entries others) {start : Nat}
    {more : List (Visit α)} (listed : patternVisits name value (others.zipIdx start) = .ok more)
    : ∃ visits,
        patternVisits name value (entries.zipIdx start) = .ok visits
        ∧ List.Forall₂ (Visit.Paired related) visits more := by
  induction alike generalizing start more with
  | nil =>
      obtain rfl := Except.ok.inj listed
      exact ⟨[], rfl, .nil⟩
  | @cons entry other _ _ here _ ih =>
      obtain ⟨pattern, child⟩ := entry
      obtain ⟨_, other⟩ := other
      obtain ⟨rfl, below⟩ := here
      simp only [List.zipIdx_cons, patternVisits, bind_eq_ok_iff, pure_eq_ok_iff] at listed ⊢
      obtain ⟨hit, searched, later, listed, rfl⟩ := listed
      obtain ⟨visits, listed, pairs⟩ := ih listed
      refine ⟨_, ⟨hit, searched, visits, listed, rfl⟩, ?_⟩
      cases hit with
      | false => exact pairs
      | true => exact .cons (.descend below) pairs

theorem additionalVisits_among {additional other : Additional α}
    (changed : additional.TightenedTo related other) {name : String} {value : Value}
    {others : List (Visit α)} (listed : additionalVisits name value other = .ok others)
    : ∃ visits,
        additionalVisits name value additional = .ok visits
        ∧ Visit.Among related visits others := by
  cases changed with
  | allow => exact ⟨[], rfl, .nil⟩
  | deny =>
      obtain rfl := Except.ok.inj listed
      exact ⟨_, rfl, .cons .report .nil⟩
  | validate below =>
      cases below with
      | none => cases listed
      | some below =>
          obtain rfl := Except.ok.inj listed
          exact ⟨_, rfl, .cons (.descend below) .nil⟩

/-- A member of the document is visited as before, or as an additional one that was allowed
before. -/
theorem memberVisits_among (changed : node.TightenedTo related tighter) {name : String}
    {value : Value} {others : List (Visit α)}
    (listed : tighter.memberVisits name value = .ok others)
    : ∃ visits,
        node.memberVisits name value = .ok visits ∧ Visit.Among related visits others := by
  obtain ⟨more, matched, listed⟩ := bind_eq_ok_iff.mp listed
  obtain ⟨found, matched, pairs⟩ := patternVisits_paired changed.patterns matched
  have empty : found.isEmpty = more.isEmpty := by cases pairs <;> rfl
  simp only [memberVisits, matched, ok_bind, empty, declares_eq_of_tightenedTo changed]
  split at listed
  · rename_i free
    rw [if_pos free]
    exact additionalVisits_among changed.additional listed
  · rename_i covered
    obtain rfl := pure_eq_ok_iff.mp listed
    exact ⟨found, if_neg covered, Visit.among_of_forall₂ pairs⟩

theorem otherVisits_among (changed : node.TightenedTo related tighter) {others : List (Visit α)}
    (listed : tighter.otherVisits members = .ok others)
    : ∃ visits, node.otherVisits members = .ok visits ∧ Visit.Among related visits others := by
  induction members generalizing others with
  | nil => exact ⟨[], rfl, .nil⟩
  | cons member rest ih =>
      simp only [otherVisits, bind_eq_ok_iff, pure_eq_ok_iff] at listed ⊢
      obtain ⟨first, here, later, listed, rfl⟩ := listed
      obtain ⟨visits, here, among⟩ := memberVisits_among changed here
      obtain ⟨more, listed, among'⟩ := ih listed
      exact ⟨_, ⟨visits, here, more, listed, rfl⟩, among.append among'⟩

/-- The visits of an object are among those of a tightened one: part by part, in each of which only
missing and unexpected members come between. -/
theorem visits_among (changed : node.TightenedTo related tighter) {others : List (Visit α)}
    (listed : tighter.visits members = .ok others)
    : ∃ visits, node.visits members = .ok visits ∧ Visit.Among related visits others := by
  obtain ⟨later, rest, rfl⟩ := bind_pure_eq_ok_iff.mp listed
  obtain ⟨visits, rest, among⟩ := otherVisits_among changed rest
  refine ⟨_, bind_pure_eq_ok_iff.mpr ⟨visits, rest, rfl⟩, ?_⟩
  exact ((declaredVisits_among changed.required changed.properties).append
    (missing_among (undeclared_sublist changed))).append among

end ObjectNode

-----------------------------------------------------------------------------------------
-- The checks of tightened schemas
-----------------------------------------------------------------------------------------

namespace Schema

variable {formats : Registries} {value : Value} {related : Schema → Schema → Prop}
  {others : List (Visit Schema)}

/-- The visits of an array are those of one with the same sizes, to related items. -/
theorem visits_array_among {items other : Schema} {minItems maxItems : Nat}
    (below : related items other)
    (listed : visits formats (.array ⟨other, minItems, maxItems⟩) value = .ok others)
    : ∃ found,
        visits formats (.array ⟨items, minItems, maxItems⟩) value = .ok found
        ∧ Visit.Among related found others := by
  obtain ⟨root, complaint, listed⟩ := bind_eq_ok_iff.mp listed
  have same : rootComplaint? formats (.array ⟨items, minItems, maxItems⟩) value = .ok root := by
    cases value <;> exact complaint
  simp only [visits, same, ok_bind]
  cases root with
  | some complaint =>
      obtain rfl := Except.ok.inj listed
      exact ⟨_, rfl, .cons .report .nil⟩
  | none =>
      cases value with
      | array form values =>
          obtain rfl := Except.ok.inj listed
          exact ⟨_, rfl, ArrayNode.visits_among below values⟩
      | _ => exact ⟨[], rfl, .nil⟩

/-- The visits of an object are among those of a tightened one. -/
theorem visits_object_among {node tighter : ObjectNode Schema}
    (changed : node.TightenedTo related tighter)
    (listed : visits formats (.object tighter) value = .ok others)
    : ∃ found,
        visits formats (.object node) value = .ok found ∧ Visit.Among related found others := by
  obtain ⟨root, complaint, listed⟩ := bind_eq_ok_iff.mp listed
  have same : rootComplaint? formats (.object node) value = .ok root := by
    cases value <;> exact complaint
  simp only [visits, same, ok_bind]
  cases root with
  | some complaint =>
      obtain rfl := Except.ok.inj listed
      exact ⟨_, rfl, .cons .report .nil⟩
  | none =>
      cases value with
      | object members => exact ObjectNode.visits_among changed listed
      | _ => exact ⟨[], rfl, .nil⟩

/-- Wherever another schema returns, so does the schema, and what it finds is among the findings of
the other one, in the same order. -/
def FindsWithin (formats : Registries) (schema other : Schema)
    : Prop :=
  ∀ value more,
    other.check formats value = .ok more
    → ∃ violations, schema.check formats value = .ok violations ∧ violations.Sublist more

/-- A schema whose visits are among those of another one finds what is among the findings of the
other, if that is so for related children. -/
theorem findsWithin_of_among {schema other : Schema}
    (children : ∀ child other, related child other → child.FindsWithin formats other)
    (visited
      : ∀ value others,
          other.visits formats value = .ok others
          → ∃ found,
              schema.visits formats value = .ok found ∧ Visit.Among related found others)
    : schema.FindsWithin formats other := by
  intro value more returned
  obtain ⟨others, listed, outcomes⟩ := (check_eq_ok_iff formats other).mp returned
  obtain ⟨found, listed, among⟩ := visited value others listed
  obtain ⟨violations, outcomes, sublist⟩ :=
    Visit.outcomes_among (fun child other value more below => children child other below value more)
      among outcomes
  exact ⟨violations, (check_eq_ok_iff formats schema).mpr ⟨found, listed, outcomes⟩, sublist⟩

/-- A schema finds what is among the findings of a tightened one, by induction on how that one comes
of it. -/
theorem findsWithin_of_tightenedTo {schema tighter : Schema}
    (tightened : schema.TightenedTo tighter)
    : schema.FindsWithin formats tighter := by
  induction tightened with
  | leaf => exact fun value more returned => ⟨more, returned, .refl more⟩
  | array _ ih =>
      exact findsWithin_of_among (fun _ _ below => below) fun _ _ => visits_array_among ih
  | object _ changed ih => exact findsWithin_of_among ih fun _ _ => visits_object_among changed

end Schema

end Assay

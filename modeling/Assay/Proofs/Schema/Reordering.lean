import Assay.Proofs.Leaf.Consistency
import Assay.Proofs.Schema.Distinct

/-! Documents that differ in the order of members alone. A schema visits one as it visits the other,
up to the order in which it comes upon the members of an object, so its violations are the same up
to their order.
-/

namespace Assay

variable {α β : Type} {exact : Prop}

-----------------------------------------------------------------------------------------
-- Reordered documents
-----------------------------------------------------------------------------------------

/-- Two values are the same up to the order of the members of objects, at any depth: objects have
the same names, and reordered values under each of them, arrays have reordered items in each place.
-/
inductive Value.Reordered : Value → Value → Prop
  | same {value} : Reordered value value
  | array {form items others} (size : items.length = others.length)
    (each
      : ∀ (index : Nat) (item other : Value),
          items[index]? = some item → others[index]? = some other → Reordered item other)
    : Reordered (.array form items) (.array form others)
  | object {members others} (names : (members.map (·.1)).Perm (others.map (·.1)))
    (each
      : ∀ name value other,
          (name, value) ∈ members → (name, other) ∈ others → Reordered value other)
    : Reordered (.object members) (.object others)

namespace Value.Reordered

variable {value other : Value}

theorem symm (reordered : value.Reordered other)
    : other.Reordered value := by
  induction reordered with
  | same => exact .same
  | array size _ ih =>
      exact .array size.symm fun index item other found found' => ih index other item found' found
  | object names _ ih =>
      exact .object names.symm fun name value other listed listed' =>
        ih name other value listed' listed

end Value.Reordered

/-- Members in another order make a reordered object, if their names are distinct. -/
theorem Value.reordered_of_perm {members others : List (String × Value)}
    (names : (members.map (·.1)).Nodup) (order : members.Perm others)
    : (Value.object members).Reordered (.object others) := by
  refine .object (order.map _) fun name value other here there => ?_
  have same := List.inj_on_of_nodup_map names here (order.mem_iff.mpr there) rfl
  obtain rfl := (Prod.mk.inj same).2
  exact .same

/-- A name is found among reordered members if it is among the members, with a reordered value. -/
theorem Value.member?_reordered {members others : List (String × Value)}
    (names : (members.map (·.1)).Perm (others.map (·.1)))
    (each
      : ∀ name value other,
          (name, value) ∈ members → (name, other) ∈ others → value.Reordered other)
    (name : String)
    : Option.Rel Reordered (member? members name) (member? others name) := by
  have absent : ∀ {entries : List (String × Value)},
      member? entries name = none ↔ name ∉ entries.map (·.1) := by
    intro entries
    simp only [member?, List.lookup_eq_none_iff, List.mem_map, bne_iff_ne, not_exists, not_and]
    exact forall₂_congr fun entry _ => ne_comm
  cases found : member? members name with
  | none =>
      rw [absent.mpr fun listed => absent.mp found (names.mem_iff.mpr listed)]
      exact .none
  | some value =>
      cases found' : member? others name with
      | none =>
          have listed := absent.mp found' |> mt names.mem_iff.mp
          nomatch (absent.mpr listed).symm.trans found
      | some other =>
          exact .some (each name value other (mem_of_member? found) (mem_of_member? found'))

/-- Reordered members can be put in the order of the others, each by the side of its own. -/
theorem Value.exists_aligned {members others : List (String × Value)}
    (names : (members.map (·.1)).Perm (others.map (·.1)))
    (each
      : ∀ name value other,
          (name, value) ∈ members → (name, other) ∈ others → value.Reordered other)
    : ∃ aligned : List (String × Value),
        List.Forall₂ (fun member entry => member.1 = entry.1 ∧ member.2.Reordered entry.2)
          members aligned
        ∧ aligned.Perm others := by
  induction members generalizing others with
  | nil =>
      obtain rfl := List.map_eq_nil_iff.mp names.nil_eq.symm
      exact ⟨[], .nil, .nil⟩
  | cons member rest ih =>
      obtain ⟨name, value⟩ := member
      obtain ⟨⟨name', other⟩, listed, same⟩ :=
        List.mem_map.mp (names.mem_iff.mp List.mem_cons_self)
      obtain rfl : name' = name := same
      obtain ⟨before, later, rfl⟩ := List.append_of_mem listed
      have order : (before ++ (name', other) :: later).Perm ((name', other) :: (before ++ later)) :=
        List.perm_middle
      have left : (rest.map (·.1)).Perm ((before ++ later).map (·.1)) :=
        (names.trans (order.map _)).cons_inv
      obtain ⟨aligned, pairs, permuted⟩ := ih left fun name value other here there =>
        each name value other (List.mem_cons_of_mem _ here)
          (order.mem_iff.mpr (List.mem_cons_of_mem _ there))
      refine ⟨(name', other) :: aligned, .cons ⟨rfl, ?_⟩ pairs, (permuted.cons _).trans order.symm⟩
      exact each name' value other List.mem_cons_self listed

-----------------------------------------------------------------------------------------
-- Lists alike up to order
-----------------------------------------------------------------------------------------

/-- Two lists are the same up to order, and under a condition in order too. -/
structure Alike (exact : Prop) (first second : List α) : Prop where
  order : first.Perm second
  same : exact → first = second

namespace Alike

theorem refl (items : List α)
    : Alike exact items items :=
  ⟨.rfl, fun _ => rfl⟩

theorem trans {first second third : List α} (left : Alike exact first second)
    (right : Alike exact second third)
    : Alike exact first third :=
  ⟨left.order.trans right.order, fun holds => (left.same holds).trans (right.same holds)⟩

theorem append {first second more next : List α} (left : Alike exact first second)
    (right : Alike exact more next)
    : Alike exact (first ++ more) (second ++ next) :=
  ⟨left.order.append right.order, fun holds => by rw [left.same holds, right.same holds]⟩

theorem map {first second : List α} (f : α → β) (alike : Alike exact first second)
    : Alike exact (first.map f) (second.map f) :=
  ⟨alike.order.map f, fun holds => by rw [alike.same holds]⟩

theorem mono {weaker : Prop} {first second : List α} (alike : Alike weaker first second)
    (implies : exact → weaker)
    : Alike exact first second :=
  ⟨alike.order, fun holds => alike.same (implies holds)⟩

end Alike

/-- What a step makes of each of several things, one after the other. -/
def collect {ε : Type} (step : α → Except ε (List β))
    : List α → Except ε (List β)
  | [] => .ok []
  | first :: rest => do
      let found ← step first
      return found ++ (← collect step rest)

section Collect

variable {ε : Type} {step : α → Except ε (List β)} {items others : List α} {found : List β}

theorem collect_cons_eq_ok_iff {first : α} {rest : List α}
    : collect step (first :: rest) = .ok found
      ↔ ∃ here later, step first = .ok here ∧ collect step rest = .ok later ∧ here ++ later = found
    := by
  simp only [collect, bind_eq_ok_iff, pure_eq_ok_iff, exists_and_left]

/-- Things in another order give the same in another order, by induction on the change of
order. -/
theorem collect_perm (order : items.Perm others) (collected : collect step items = .ok found)
    : ∃ more, collect step others = .ok more ∧ found.Perm more := by
  induction order generalizing found with
  | nil => exact ⟨found, collected, .rfl⟩
  | cons first _ ih =>
      obtain ⟨here, later, done, rest, rfl⟩ := collect_cons_eq_ok_iff.mp collected
      obtain ⟨more, rest', permuted⟩ := ih rest
      exact ⟨here ++ more, collect_cons_eq_ok_iff.mpr ⟨here, more, done, rest', rfl⟩,
        permuted.append_left here⟩
  | swap first second rest =>
      obtain ⟨there, _, done', between, rfl⟩ := collect_cons_eq_ok_iff.mp collected
      obtain ⟨here, later, done, rest, rfl⟩ := collect_cons_eq_ok_iff.mp between
      refine ⟨here ++ (there ++ later), ?_, ?_⟩
      · exact collect_cons_eq_ok_iff.mpr
          ⟨here, _, done, collect_cons_eq_ok_iff.mpr ⟨there, later, done', rest, rfl⟩, rfl⟩
      · simpa using List.perm_append_comm.append_right later
  | trans _ _ ih ih' =>
      obtain ⟨between, collected, permuted⟩ := ih collected
      obtain ⟨more, collected, permuted'⟩ := ih' collected
      exact ⟨more, collected, permuted.trans permuted'⟩

theorem collect_alike (alike : Alike exact items others)
    (collected : collect step items = .ok found)
    : ∃ more, collect step others = .ok more ∧ Alike exact found more := by
  obtain ⟨more, collected', permuted⟩ := collect_perm alike.order collected
  refine ⟨more, collected', permuted, fun holds => ?_⟩
  rw [← alike.same holds, collected] at collected'
  exact Except.ok.inj collected'

/-- Things side by side with others of which each gives what is related give what is related, if
lists in two parts are related when their parts are. -/
theorem collect_related {related : List β → List β → Prop} (nil : related [] [])
    (append
      : ∀ first second more next,
          related first second → related more next → related (first ++ more) (second ++ next))
    (pairs
      : List.Forall₂
          (fun item other =>
            ∀ found, step item = .ok found → ∃ more, step other = .ok more ∧ related found more)
          items others)
    (collected : collect step items = .ok found)
    : ∃ more, collect step others = .ok more ∧ related found more := by
  induction pairs generalizing found with
  | nil =>
      obtain rfl := Except.ok.inj collected
      exact ⟨[], rfl, nil⟩
  | cons here _ ih =>
      obtain ⟨first, more, done, rest, rfl⟩ := collect_cons_eq_ok_iff.mp collected
      obtain ⟨second, done', fits⟩ := here first done
      obtain ⟨next, rest', fits'⟩ := ih rest
      exact ⟨second ++ next, collect_cons_eq_ok_iff.mpr ⟨second, next, done', rest', rfl⟩,
        append _ _ _ _ fits fits'⟩

end Collect

-----------------------------------------------------------------------------------------
-- Rearranged visits
-----------------------------------------------------------------------------------------

namespace Visit

variable {run : α → Checker} {visits others : List (Visit α)}

/-- Two visits are the same, but that a child may be handed a reordered value. -/
inductive Reordered : Visit α → Visit α → Prop
  | report {breach} : Reordered (.report breach) (.report breach)
  | descend {edge child value other} (reordered : value.Reordered other)
    : Reordered (.descend edge child value) (.descend edge child other)

/-- Visits are others up to their order, which is kept under a condition, and to reordering what
children are handed. -/
def Rearranged (exact : Prop) (visits others : List (Visit α))
    : Prop :=
  ∃ between, List.Forall₂ Reordered visits between ∧ Alike exact between others

theorem rearranged_of_forall₂ (pairs : List.Forall₂ Reordered visits others)
    : Rearranged exact visits others :=
  ⟨others, pairs, .refl others⟩

theorem rearranged_refl (visits : List (Visit α))
    : Rearranged exact visits visits := by
  refine rearranged_of_forall₂ (List.forall₂_same.mpr fun visit _ => ?_)
  cases visit with
  | report breach => exact .report
  | descend edge child value => exact .descend .same

theorem Rearranged.append {more next : List (Visit α)} (left : Rearranged exact visits others)
    (right : Rearranged exact more next)
    : Rearranged exact (visits ++ more) (others ++ next) := by
  obtain ⟨between, pairs, alike⟩ := left
  obtain ⟨between', pairs', alike'⟩ := right
  exact ⟨between ++ between', List.rel_append pairs pairs', alike.append alike'⟩

theorem Rearranged.mono {weaker : Prop} (rearranged : Rearranged weaker visits others)
    (implies : exact → weaker)
    : Rearranged exact visits others := by
  obtain ⟨between, pairs, alike⟩ := rearranged
  exact ⟨between, pairs, alike.mono implies⟩

theorem outcomes_eq_collect (visits : List (Visit α))
    : outcomes run visits = collect (outcome run) visits := by
  induction visits with
  | nil => rfl
  | cons visit rest ih => simp only [outcomes_cons, collect, ih]

/-- Rearranged visits find the same up to order, if the children do so with what they are
handed. -/
theorem outcomes_rearranged {found : List Violation}
    (children
      : ∀ edge child value other,
          descend edge child value ∈ visits
          → value.Reordered other
          → ∀ found,
              run child value = .ok found
              → ∃ more, run child other = .ok more ∧ Alike exact found more)
    (rearranged : Rearranged exact visits others) (visited : outcomes run visits = .ok found)
    : ∃ more, outcomes run others = .ok more ∧ Alike exact found more := by
  obtain ⟨between, pairs, alike⟩ := rearranged
  have each : List.Forall₂
      (fun visit other =>
        ∀ found,
          visit.outcome run = .ok found
          → ∃ more, other.outcome run = .ok more ∧ Alike exact found more)
      visits between := by
    refine ((List.forall₂_and_left _ _).mpr ⟨fun visit listed => listed, pairs⟩).imp ?_
    rintro visit other ⟨listed, reordered⟩ found done
    cases reordered with
    | report => exact ⟨found, done, .refl found⟩
    | descend reordered =>
        obtain ⟨inner, checked, rfl⟩ := bind_pure_eq_ok_iff.mp done
        obtain ⟨more, checked', alike⟩ := children _ _ _ _ listed reordered inner checked
        exact ⟨_, bind_pure_eq_ok_iff.mpr ⟨more, checked', rfl⟩, alike.map _⟩
  rw [outcomes_eq_collect] at visited
  rw [outcomes_eq_collect]
  obtain ⟨middle, collected, alike'⟩ :=
    collect_related (.refl []) (fun _ _ _ _ => .append) each visited
  obtain ⟨more, collected, alike''⟩ := collect_alike alike collected
  exact ⟨more, collected, alike'.trans alike''⟩

end Visit

-----------------------------------------------------------------------------------------
-- The visits of containers
-----------------------------------------------------------------------------------------

/-- Items in the same places are visited alike. -/
theorem ArrayNode.visits_reordered (node : ArrayNode α) {items others : List Value}
    (size : items.length = others.length)
    (each
      : ∀ (index : Nat) (item other : Value),
          items[index]? = some item → others[index]? = some other → item.Reordered other)
    : List.Forall₂ Visit.Reordered (node.visits items) (node.visits others) := by
  refine List.forall₂_iff_get.mpr ⟨by simpa [visits] using size, fun index here there => ?_⟩
  simp only [visits, List.length_map, List.length_zipIdx] at here there
  simp only [visits, List.get_eq_getElem, List.getElem_map, List.getElem_zipIdx, Nat.zero_add]
  exact .descend (each index _ _ (List.getElem?_eq_getElem here) (List.getElem?_eq_getElem there))

namespace ObjectNode

variable {node : ObjectNode α} {members others : List (String × Value)}

/-- Members that no pattern describes and that are allowed anyhow are not visited as members of the
document. -/
def Undemanding (node : ObjectNode α)
    : Prop :=
  node.patterns = [] ∧ node.additional.policy = .allow

/-- Declared members are visited in the order of their declaration. -/
theorem declaredVisits_reordered {required : List Label}
    (found
      : ∀ name,
          Option.Rel Value.Reordered (Value.member? members name) (Value.member? others name))
    (entries : List (Label × α))
    : List.Forall₂ Visit.Reordered (entries.flatMap (declaredVisit required members))
        (entries.flatMap (declaredVisit required others)) := by
  induction entries with
  | nil => exact .nil
  | cons entry rest ih =>
      refine List.rel_append ?_ ih
      have here := found entry.1.word
      unfold declaredVisit
      generalize Value.member? members entry.1.word = first at here ⊢
      generalize Value.member? others entry.1.word = second at here ⊢
      cases here with
      | none =>
          dsimp only
          split
          · exact .cons .report .nil
          · exact .nil
      | some reordered => exact .cons (.descend reordered) .nil

theorem undeclared_reordered
    (found
      : ∀ name,
          Option.Rel Value.Reordered (Value.member? members name) (Value.member? others name))
    : node.undeclared members = node.undeclared others := by
  refine List.filter_congr fun name _ => ?_
  have here := found name.word
  generalize Value.member? members name.word = first at here ⊢
  generalize Value.member? others name.word = second at here ⊢
  cases here <;> rfl

/-- The patterns that a name matches are visited in their order. -/
theorem patternVisits_reordered {name : String} {value other : Value}
    (reordered : value.Reordered other) {entries : List ((Slot Pattern × α) × Nat)}
    {visits : List (Visit α)} (listed : patternVisits name value entries = .ok visits)
    : ∃ more,
        patternVisits name other entries = .ok more
        ∧ List.Forall₂ Visit.Reordered visits more := by
  induction entries generalizing visits with
  | nil =>
      obtain rfl := Except.ok.inj listed
      exact ⟨[], rfl, .nil⟩
  | cons entry rest ih =>
      obtain ⟨⟨pattern, child⟩, position⟩ := entry
      simp only [patternVisits, bind_eq_ok_iff, pure_eq_ok_iff] at listed ⊢
      obtain ⟨hit, searched, later, listed, rfl⟩ := listed
      obtain ⟨more, listed, pairs⟩ := ih listed
      refine ⟨_, ⟨hit, searched, more, listed, rfl⟩, ?_⟩
      cases hit with
      | false => exact pairs
      | true => exact .cons (.descend reordered) pairs

theorem additionalVisits_reordered {additional : Additional α} {name : String} {value other : Value}
    (reordered : value.Reordered other) {visits : List (Visit α)}
    (listed : additionalVisits name value additional = .ok visits)
    : ∃ more,
        additionalVisits name other additional = .ok more
        ∧ List.Forall₂ Visit.Reordered visits more := by
  unfold additionalVisits at listed
  split at listed
  · obtain rfl := Except.ok.inj listed
    exact ⟨[], rfl, .nil⟩
  · obtain rfl := Except.ok.inj listed
    exact ⟨_, rfl, .cons .report .nil⟩
  · obtain rfl := Except.ok.inj listed
    exact ⟨_, rfl, .cons (.descend reordered) .nil⟩
  · cases listed

theorem memberVisits_reordered {name : String} {value other : Value}
    (reordered : value.Reordered other) {visits : List (Visit α)}
    (listed : node.memberVisits name value = .ok visits)
    : ∃ more,
        node.memberVisits name other = .ok more
        ∧ List.Forall₂ Visit.Reordered visits more := by
  obtain ⟨found, matched, listed⟩ := bind_eq_ok_iff.mp listed
  obtain ⟨more, matched', pairs⟩ := patternVisits_reordered reordered matched
  have empty : found.isEmpty = more.isEmpty := by cases pairs <;> rfl
  simp only [memberVisits, matched', ok_bind, ← empty]
  split at listed
  · rename_i free
    rw [if_pos free]
    exact additionalVisits_reordered reordered listed
  · rename_i covered
    obtain rfl := pure_eq_ok_iff.mp listed
    exact ⟨more, if_neg covered, pairs⟩

theorem otherVisits_eq_collect (members : List (String × Value))
    : node.otherVisits members
      = collect (fun member => node.memberVisits member.1 member.2) members := by
  induction members with
  | nil => rfl
  | cons member rest ih => simp only [otherVisits, collect, ih]

/-- An undemanding node visits no member as one of the document. -/
theorem otherVisits_of_undemanding (undemanding : node.Undemanding)
    (members : List (String × Value))
    : node.otherVisits members = .ok [] := by
  obtain ⟨patterns, allow⟩ := undemanding
  induction members with
  | nil => rfl
  | cons member rest ih =>
      have free : additionalVisits member.1 member.2 node.additional = .ok [] := by
        unfold additionalVisits
        split <;> simp_all
      simp [otherVisits, memberVisits, patterns, free, patternVisits, ih, pure, Except.pure]

/-- The members of a document are visited in their order, unless the node is undemanding. -/
theorem otherVisits_rearranged {visits : List (Visit α)}
    (names : (members.map (·.1)).Perm (others.map (·.1)))
    (each
      : ∀ name value other,
          (name, value) ∈ members → (name, other) ∈ others → value.Reordered other)
    (listed : node.otherVisits members = .ok visits)
    : ∃ more,
        node.otherVisits others = .ok more ∧ Visit.Rearranged node.Undemanding visits more := by
  obtain ⟨aligned, pairs, order⟩ := Value.exists_aligned names each
  rw [otherVisits_eq_collect] at listed
  have each : List.Forall₂
      (fun member entry =>
        ∀ found,
          node.memberVisits member.1 member.2 = .ok found
          → ∃ more,
              node.memberVisits entry.1 entry.2 = .ok more
              ∧ List.Forall₂ Visit.Reordered found more)
      members aligned := by
    refine pairs.imp ?_
    rintro ⟨name, value⟩ ⟨_, other⟩ ⟨rfl, reordered⟩ found done
    exact memberVisits_reordered reordered done
  obtain ⟨between, listed, pairs⟩ :=
    collect_related .nil (fun _ _ _ _ first more => List.rel_append first more) each listed
  obtain ⟨more, listed, permuted⟩ := collect_perm order listed
  rw [← otherVisits_eq_collect] at listed
  refine ⟨more, listed, between, pairs, permuted, fun undemanding => ?_⟩
  obtain rfl := Except.ok.inj ((otherVisits_of_undemanding undemanding others).symm.trans listed)
  exact List.perm_nil.mp permuted

/-- An object visits reordered members as it visits the others, up to the order of those that are
visited as members of the document. -/
theorem visits_rearranged {visits : List (Visit α)}
    (names : (members.map (·.1)).Perm (others.map (·.1)))
    (each
      : ∀ name value other,
          (name, value) ∈ members → (name, other) ∈ others → value.Reordered other)
    (listed : node.visits members = .ok visits)
    : ∃ more, node.visits others = .ok more ∧ Visit.Rearranged node.Undemanding visits more := by
  have found := Value.member?_reordered names each
  obtain ⟨inner, walked, rfl⟩ := bind_pure_eq_ok_iff.mp listed
  obtain ⟨more, walked', rearranged⟩ := otherVisits_rearranged names each walked
  refine ⟨_, bind_pure_eq_ok_iff.mpr ⟨more, walked', rfl⟩, ?_⟩
  rw [undeclared_reordered found]
  exact .append
    (.append (Visit.rearranged_of_forall₂ (declaredVisits_reordered found _))
      (Visit.rearranged_refl _))
    rearranged

end ObjectNode

-----------------------------------------------------------------------------------------
-- Checks of reordered documents
-----------------------------------------------------------------------------------------

namespace Schema

variable {formats : Registries} {schema : Schema} {value other : Value}

/-- A consistent leaf has one visit at an array or an object at most, whatever there is inside. -/
theorem leaf_visits_of_container {registry : RegistryId} {leaf : Leaf}
    (known : formats registry = .builtIn) (consistent : leaf.Consistent .builtIn)
    (container : value.kind = .ok .array ∨ value.kind = .ok .object)
    : visits formats (.leaf registry leaf) value
      = .ok (if leaf.type = .any then [] else [.report (.root (.notOfType leaf.type))]) := by
  simp only [visits, rootComplaint?, known, Leaf.complaint_of_container consistent container,
    ok_bind]
  split_ifs <;> rfl

/-- A schema visits a reordered value as it visits the value, up to the order of members. -/
theorem visits_rearranged {visits : List (Visit Schema)}
    (settled
      : ∀ registry leaf,
          schema = .leaf registry leaf
          → formats registry = .builtIn ∧ leaf.Consistent .builtIn)
    (reordered : value.Reordered other) (listed : schema.visits formats value = .ok visits)
    : ∃ more,
        schema.visits formats other = .ok more
        ∧ Visit.Rearranged (∀ node, schema = .object node → node.Undemanding) visits more := by
  cases reordered with
  | same => exact ⟨visits, listed, Visit.rearranged_refl visits⟩
  | @array form items others size each =>
      cases schema with
      | leaf registry leaf =>
          obtain ⟨known, consistent⟩ := settled registry leaf rfl
          rw [leaf_visits_of_container known consistent (.inl rfl)] at listed ⊢
          exact ⟨visits, listed, Visit.rearranged_refl visits⟩
      | array node =>
          simp only [Schema.visits, rootComplaint?, ok_bind, innerVisits, ← size] at listed ⊢
          cases found : node.sizeComplaint? items.length with
          | some complaint =>
              simp only [found] at listed ⊢
              exact ⟨visits, listed, Visit.rearranged_refl visits⟩
          | none =>
              simp only [found] at listed ⊢
              obtain rfl := Except.ok.inj listed
              exact ⟨_, rfl, Visit.rearranged_of_forall₂ (node.visits_reordered size each)⟩
      | object node => exact ⟨visits, listed, Visit.rearranged_refl visits⟩
  | @object members others names each =>
      cases schema with
      | leaf registry leaf =>
          obtain ⟨known, consistent⟩ := settled registry leaf rfl
          rw [leaf_visits_of_container known consistent (.inr rfl)] at listed ⊢
          exact ⟨visits, listed, Visit.rearranged_refl visits⟩
      | array node => exact ⟨visits, listed, Visit.rearranged_refl visits⟩
      | object node =>
          obtain ⟨more, listed, rearranged⟩ := node.visits_rearranged names each listed
          exact ⟨more, listed, rearranged.mono fun undemanding => undemanding node rfl⟩

/-- A tree of consistent leaves bound to the built-in formats. -/
def Settled (formats : Registries) (schema : Schema)
    : Prop :=
  ∀ registry leaf,
    schema.Contains (.leaf registry leaf)
    → formats registry = .builtIn ∧ leaf.Consistent .builtIn

/-- No object of a tree demands anything of members that it does not declare. -/
def Undemanding (schema : Schema)
    : Prop :=
  ∀ node, schema.Contains (.object node) → node.Undemanding

/-- What a check returns for a document it returns for a reordered one too, up to order, by
induction on what the tree leads to. -/
theorem check_reordered {violations : List Violation} (settled : schema.Settled formats)
    (reordered : value.Reordered other) (returned : schema.check formats value = .ok violations)
    : ∃ more,
        schema.check formats other = .ok more ∧ Alike schema.Undemanding violations more := by
  induction schema using leadsInduction generalizing value other violations with
  | step schema below =>
      obtain ⟨visits, listed, outcome⟩ := (check_eq_ok_iff formats schema).mp returned
      have here : ∀ registry leaf, schema = .leaf registry leaf
          → formats registry = .builtIn ∧ leaf.Consistent .builtIn := by
        rintro registry leaf rfl
        exact settled registry leaf .refl
      obtain ⟨more, listed', rearranged⟩ := visits_rearranged here reordered listed
      have undemanding : schema.Undemanding → ∀ node, schema = .object node → node.Undemanding := by
        rintro free node rfl
        exact free node .refl
      obtain ⟨found, outcome', alike⟩ :=
        Visit.outcomes_rearranged (fun edge child inner other visit reordered violations
            checked => by
          have leads := (mem_visits_iff listed).mp visit
          have down := holds_of_leads leads
          obtain ⟨more, checked', alike⟩ := below value edge child inner leads
            (fun registry leaf contained => settled registry leaf (.head down contained))
            reordered checked
          exact ⟨more, checked',
            alike.mono fun free node contained => free node (.head down contained)⟩)
          (rearranged.mono undemanding) outcome
      exact ⟨found, (check_eq_ok_iff formats schema).mpr ⟨more, listed', outcome'⟩, alike⟩

end Schema

end Assay

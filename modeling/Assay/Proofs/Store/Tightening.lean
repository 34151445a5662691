import Assay.Proofs.Schema.Tightening
import Assay.Proofs.Store.Histories

/-! Objects of a store that come to ask for more. Further required names, and something said of
additional members that were allowed, tighten every tree that the object is in, so that documents
get the violations from before with others between them.
-/

namespace Assay

-----------------------------------------------------------------------------------------
-- Tightened trees
-----------------------------------------------------------------------------------------

namespace ObjectNode

variable {α β γ : Type} {related : α → α → Prop} {f g : α → Option β}

/-- What replaces related children. -/
def Replaced (related : α → α → Prop) (f g : α → Option β) (first second : β)
    : Prop :=
  ∃ child other, related child other ∧ f child = some first ∧ g other = some second

theorem entriesRelated_of_mapEntries? {entries others : List (γ × α)}
    (alike : List.Forall₂ (EntryRelated related) entries others) {mapped mapped' : List (γ × β)}
    (found : mapEntries? f entries = some mapped) (found' : mapEntries? g others = some mapped')
    : List.Forall₂ (EntryRelated (Replaced related f g)) mapped mapped' := by
  induction alike generalizing mapped mapped' with
  | nil =>
      obtain rfl := Option.some.inj found
      obtain rfl := Option.some.inj found'
      exact .nil
  | cons here _ ih =>
      obtain ⟨child, _, replaced, rest, rfl⟩ := mapEntries?_cons_eq_some_iff.mp found
      obtain ⟨child', _, replaced', rest', rfl⟩ := mapEntries?_cons_eq_some_iff.mp found'
      exact .cons ⟨here.1, _, _, here.2, replaced, replaced'⟩ (ih rest rest')

/-- What is said of additional members is tightened as before when the schemas for them are
replaced. -/
theorem additional_tightenedTo_of_map? {before after : Additional α} {mapped mapped' : Additional β}
    (said : before.TightenedTo related after) (found : before.map? f = some mapped)
    (found' : after.map? g = some mapped')
    : mapped.TightenedTo (Replaced related f g) mapped' := by
  obtain ⟨policy, schema⟩ := mapped
  obtain ⟨policy', schema'⟩ := mapped'
  obtain ⟨rfl, found⟩ := Additional.map?_eq_some_iff.mp found
  obtain ⟨rfl, found'⟩ := Additional.map?_eq_some_iff.mp found'
  cases said with
  | allow => exact .allow
  | deny => exact .deny
  | validate below =>
      refine .validate ?_
      rcases found with ⟨rfl, rfl⟩ | ⟨child, other, rfl, replaced, rfl⟩
      · rcases found' with ⟨rfl, rfl⟩ | ⟨child', other', rfl, replaced', rfl⟩
        · exact .none
        · cases below
      · rcases found' with ⟨rfl, rfl⟩ | ⟨child', other', rfl, replaced', rfl⟩
        · cases below
        · cases below with
          | some related => exact .some ⟨_, _, related, replaced, replaced'⟩

/-- A node is tightened as before when its children are replaced. -/
theorem TightenedTo.map? {node tighter : ObjectNode α} (changed : node.TightenedTo related tighter)
    {mapped mapped' : ObjectNode β} (found : node.map? f = some mapped)
    (found' : tighter.map? g = some mapped')
    : mapped.TightenedTo (Replaced related f g) mapped' := by
  obtain ⟨properties, required, patterns, additional⟩ := map?_eq_some_iff.mp found
  obtain ⟨properties', required', patterns', additional'⟩ := map?_eq_some_iff.mp found'
  refine ⟨entriesRelated_of_mapEntries? changed.properties properties properties',
    entriesRelated_of_mapEntries? changed.patterns patterns patterns',
    required ▸ required' ▸ changed.required, ?_⟩
  exact additional_tightenedTo_of_map? changed.additional additional additional'

end ObjectNode

/-- A cell holds the same, or an object that has been tightened and has kept its children. -/
inductive Cell.TightenedTo : Cell → Cell → Prop
  | leaf {registry leaf} : TightenedTo (.leaf registry leaf) (.leaf registry leaf)
  | array {node} : TightenedTo (.array node) (.array node)
  | object {node tighter : ObjectNode NodeId} (changed : node.TightenedTo Eq tighter)
    : TightenedTo (.object node) (.object tighter)

section Nodes

variable {α : Type}

theorem forall₂_entryRelated_eq {β : Type} {entries others : List (β × α)}
    : List.Forall₂ (EntryRelated Eq) entries others ↔ entries = others := by
  have same : EntryRelated (β := β) (α := α) Eq = Eq := by
    funext entry other
    exact propext Prod.ext_iff.symm
  rw [same, List.forall₂_eq_eq_eq]

theorem Additional.TightenedTo.refl (additional : Additional α)
    : additional.TightenedTo Eq additional := by
  obtain ⟨policy, schema⟩ := additional
  cases policy with
  | allow => exact .allow
  | deny => exact .deny
  | validate =>
      refine .validate ?_
      cases schema with
      | none => exact .none
      | some child => exact .some rfl

theorem Additional.TightenedTo.trans {first second third : Additional α}
    (left : first.TightenedTo Eq second) (right : second.TightenedTo Eq third)
    : first.TightenedTo Eq third := by
  cases left with
  | allow => exact .allow
  | deny =>
      cases right with
      | deny => exact .deny
  | validate first =>
      cases right with
      | validate second =>
          refine .validate ?_
          cases first with
          | none => exact second
          | some same => exact same ▸ second

namespace ObjectNode

theorem tightenedTo_iff {node tighter : ObjectNode α}
    : node.TightenedTo Eq tighter
      ↔ node.properties = tighter.properties
        ∧ node.patterns = tighter.patterns
        ∧ node.required.Sublist tighter.required
        ∧ node.additional.TightenedTo Eq tighter.additional := by
  constructor
  · intro ⟨properties, patterns, required, additional⟩
    exact ⟨forall₂_entryRelated_eq.mp properties, forall₂_entryRelated_eq.mp patterns, required,
      additional⟩
  · intro ⟨properties, patterns, required, additional⟩
    exact ⟨forall₂_entryRelated_eq.mpr properties, forall₂_entryRelated_eq.mpr patterns, required,
      additional⟩

theorem TightenedTo.trans {first second third : ObjectNode α} (left : first.TightenedTo Eq second)
    (right : second.TightenedTo Eq third)
    : first.TightenedTo Eq third := by
  obtain ⟨properties, patterns, required, additional⟩ := tightenedTo_iff.mp left
  obtain ⟨properties', patterns', required', additional'⟩ := tightenedTo_iff.mp right
  exact tightenedTo_iff.mpr ⟨properties.trans properties', patterns.trans patterns',
    required.trans required', additional.trans additional'⟩

/-- Assigned required names, or something else said of additional members, change nothing else of a
node. -/
theorem Takes.of_required {node next : ObjectNode NodeId} {value : Value}
    (takes : node.Takes (.assign "required" value) next)
    : ∃ required, next = { node with required } := by
  generalize assigned : NodeCall.assign "required" value = call at takes
  cases takes with
  | property | pattern => nomatch assigned
  | required => exact ⟨_, rfl⟩
  | additional => exact absurd (NodeCall.assign.inj assigned).1 (by decide)
  | other => exact ⟨_, rfl⟩

theorem Takes.of_additional {node next : ObjectNode NodeId} {value : Value}
    (takes : node.Takes (.assign "additional_properties" value) next)
    : ∃ additional, next = { node with additional } := by
  generalize assigned : NodeCall.assign "additional_properties" value = call at takes
  cases takes with
  | property | pattern => nomatch assigned
  | required => exact absurd (NodeCall.assign.inj assigned).1 (by decide)
  | additional => exact ⟨_, rfl⟩
  | other => exact ⟨_, rfl⟩

end ObjectNode

end Nodes

theorem Cell.TightenedTo.refl (cell : Cell)
    : cell.TightenedTo cell := by
  cases cell with
  | leaf => exact .leaf
  | array => exact .array
  | object node =>
      exact .object (ObjectNode.tightenedTo_iff.mpr ⟨rfl, rfl, .refl _, .refl _⟩)

theorem Cell.TightenedTo.trans {first second third : Cell} (left : first.TightenedTo second)
    (right : second.TightenedTo third)
    : first.TightenedTo third := by
  cases left with
  | leaf | array => exact right
  | object changed =>
      cases right with
      | object changed' => exact .object (changed.trans changed')

-----------------------------------------------------------------------------------------
-- Tightened stores
-----------------------------------------------------------------------------------------

namespace Store

/-- One step in which a store is tightened: required names are assigned to an object, with those
that it had in their order among them; something is said of additional members of an object that
allowed them all; or nodes are added. -/
inductive Tightens : Store → Store → Prop
  | required {before after formats id value node next}
    (found : before.get? id = some (.object node))
    (done : before.call formats id (.assign "required" value) = .ok after)
    (changed : after.get? id = some (.object next))
    (kept : node.required.Sublist next.required)
    : Tightens before after
  | additional {before after formats id value node} (found : before.get? id = some (.object node))
    (allowed : node.additional = .allow)
    (done : before.call formats id (.assign "additional_properties" value) = .ok after)
    : Tightens before after
  | added {before after} (extended : before.Extends after) : Tightens before after

variable {before after : Store} {formats : Registries} {depth deeper : Nat} {id : NodeId}

/-- One store has the nodes of another one, where objects may have been tightened. -/
def TightenedTo (before after : Store)
    : Prop :=
  ∀ id cell,
    before.get? id = some cell
    → ∃ tighter, after.get? id = some tighter ∧ cell.TightenedTo tighter

/-- A store is tightened where an object in it is. -/
theorem tightenedTo_put {node tighter : ObjectNode NodeId}
    (found : before.get? id = some (.object node)) (changed : node.TightenedTo Eq tighter)
    : before.TightenedTo (before.put id (.object tighter)) := by
  intro other cell present
  by_cases same : other = id
  · subst same
    obtain rfl := Option.some.inj (found.symm.trans present)
    exact ⟨_, get?_put_self before _ (has_iff_lt.mp ⟨_, found⟩), .object changed⟩
  · exact ⟨cell, by rw [get?_put_of_ne before _ same, present], .refl cell⟩

theorem tightenedTo_of_tightens (tightens : before.Tightens after)
    : before.TightenedTo after := by
  cases tightens with
  | required found done changed kept =>
      obtain ⟨next, takes, rfl⟩ := takes_of_call_object found done
      obtain ⟨names, rfl⟩ := takes.of_required
      rw [get?_put_self before _ (has_iff_lt.mp ⟨_, found⟩)] at changed
      obtain rfl := Cell.object.inj (Option.some.inj changed)
      exact tightenedTo_put found (ObjectNode.tightenedTo_iff.mpr ⟨rfl, rfl, kept, .refl _⟩)
  | additional found allowed done =>
      obtain ⟨next, takes, rfl⟩ := takes_of_call_object found done
      obtain ⟨additional, rfl⟩ := takes.of_additional
      exact tightenedTo_put found
        (ObjectNode.tightenedTo_iff.mpr ⟨rfl, rfl, .refl _, allowed ▸ .allow⟩)
  | added extended => exact fun id cell found => ⟨cell, extended id cell found, .refl cell⟩

/-- However often a store is tightened, it is tightened altogether. -/
theorem tightenedTo_of_steps (steps : Relation.ReflTransGen Tightens before after)
    : before.TightenedTo after := by
  induction steps with
  | refl => exact fun id cell found => ⟨cell, found, .refl cell⟩
  | tail _ step ih =>
      intro id cell found
      obtain ⟨middle, found, changed⟩ := ih id cell found
      obtain ⟨tighter, found, changed'⟩ := tightenedTo_of_tightens step id middle found
      exact ⟨tighter, found, changed.trans changed'⟩

/-- Trees of nodes with the same place are tightened with their store, by induction on their
depth. -/
theorem tightenedTo_of_unfoldTo (tightened : before.TightenedTo after) {schema tighter : Schema}
    (unfolds : before.unfoldTo depth id = some schema)
    (unfolds' : after.unfoldTo deeper id = some tighter)
    : schema.TightenedTo tighter := by
  induction depth generalizing deeper id schema tighter with
  | zero => nomatch unfolds
  | succ depth ih =>
      obtain ⟨deeper, rfl⟩ : ∃ less, deeper = less + 1 := by
        cases deeper with
        | zero => nomatch unfolds'
        | succ less => exact ⟨less, rfl⟩
      obtain ⟨cell, found, tree⟩ := unfoldTo_succ_eq_some_iff.mp unfolds
      obtain ⟨cell', found', tree'⟩ := unfoldTo_succ_eq_some_iff.mp unfolds'
      obtain ⟨_, there, changed⟩ := tightened id cell found
      obtain rfl := Option.some.inj (there.symm.trans found')
      cases changed with
      | leaf =>
          obtain rfl := Option.some.inj (tree.symm.trans tree')
          exact Option.some.inj tree ▸ .leaf
      | array =>
          obtain ⟨items, below, rfl⟩ := cellTree?_array_eq_some_iff.mp tree
          obtain ⟨items', below', rfl⟩ := cellTree?_array_eq_some_iff.mp tree'
          exact .array (ih below below')
      | object changed =>
          obtain ⟨mapped, below, rfl⟩ := Option.map_eq_some_iff.mp tree
          obtain ⟨mapped', below', rfl⟩ := Option.map_eq_some_iff.mp tree'
          refine .object ?_ (changed.map? below below')
          rintro child other ⟨_, _, rfl, unfolds, unfolds'⟩
          exact ih unfolds unfolds'

-----------------------------------------------------------------------------------------
-- More violations
-----------------------------------------------------------------------------------------

/-- A node whose tree comes of that of another one by tightening objects, at any depth and as many
as there are, returns for a document only if the other one does, and then what the other one returns
is a sublist. So what the tightened node accepts, the other one accepts. The nodes may be those of
two stores, or of one at two times. -/
theorem check_sublist_of_tightened {schema tighter : Schema} {other : NodeId} {document : Value}
    {more : List Violation} (unfolds : before.unfoldTo depth id = some schema)
    (unfolds' : after.unfoldTo deeper other = some tighter)
    (tightened : schema.TightenedTo tighter)
    (returned : after.check formats other document = .ok more)
    : ∃ violations,
        before.check formats id document = .ok violations
        ∧ violations.Sublist more
        ∧ (more = [] → violations = []) := by
  rw [check_eq_of_unfoldTo unfolds'] at returned
  obtain ⟨violations, returned, sublist⟩ :=
    Schema.findsWithin_of_tightenedTo tightened document more returned
  refine ⟨violations, by rw [check_eq_of_unfoldTo unfolds, returned], sublist, ?_⟩
  rintro rfl
  exact List.sublist_nil.mp sublist

/-- An integer, an object that may have one, an array of such objects, and an object that may have
such an array. -/
def looseObjects : List Event :=
  [.leaf (fun _ => .builtIn) 0 [("type", .string "integer")],
    .object [("properties", .object [("p", .foreign (.node 0 "" ""))])],
    .array [("items", .foreign (.node 1 "" ""))],
    .object [("properties", .object [("a", .foreign (.node 3 "" ""))])]]

/-- The inner objects are closed and come to require a member that they do not declare, the outer
one comes to require the one that it declares and another one. -/
def tightenings : List Event :=
  [.called (fun _ => .builtIn) 1 (.assign "additional_properties" (.bool false)),
    .called (fun _ => .builtIn) 1 (.assign "required" (.list [.string "q"])),
    .called (fun _ => .builtIn) 4 (.assign "required" (.list [.string "b", .string "a"]))]

/-- A member of the wrong type is still reported first, and with it what the objects ask for now. -/
theorem violations_among_those_of_tightened_objects
    : ∃ violations more,
        (afterAll {} looseObjects).check (fun _ => .builtIn) 4
            (.object [("a", .list [.object [("y", .null), ("p", .string "t")]])])
          = .ok violations
        ∧ (afterAll {} (looseObjects ++ tightenings)).check (fun _ => .builtIn) 4
            (.object [("a", .list [.object [("y", .null), ("p", .string "t")]])])
          = .ok more
        ∧ violations.Sublist more
        ∧ violations.map (·.location) = [".a[0].p"]
        ∧ more.map (·.location) = [".a[0].p", ".a[0].q", ".a[0].y", ".b"] := by
  have closed : Tightens (afterAll {} looseObjects)
      (afterAll {} (looseObjects ++ tightenings.take 1)) :=
    @Tightens.additional _ _ (fun _ => .builtIn) 1 (.bool false) _ rfl rfl rfl
  have inner : Tightens (afterAll {} (looseObjects ++ tightenings.take 1))
      (afterAll {} (looseObjects ++ tightenings.take 2)) :=
    @Tightens.required _ _ (fun _ => .builtIn) 1 (.list [.string "q"]) _ _ rfl rfl rfl
      (List.nil_sublist _)
  have outer : Tightens (afterAll {} (looseObjects ++ tightenings.take 2))
      (afterAll {} (looseObjects ++ tightenings)) :=
    @Tightens.required _ _ (fun _ => .builtIn) 4 (.list [.string "b", .string "a"]) _ _ rfl rfl rfl
      (List.nil_sublist _)
  have tightened := @tightenedTo_of_unfoldTo _ _ 4 4 4
    (tightenedTo_of_steps (.tail (.tail (.single closed) inner) outer)) _ _ rfl rfl
  obtain ⟨violations, returned, sublist, -⟩ :=
    @check_sublist_of_tightened (afterAll {} looseObjects)
      (afterAll {} (looseObjects ++ tightenings)) (fun _ => .builtIn) 4 4 4 _ _ 4
      (.object [("a", .list [.object [("y", .null), ("p", .string "t")]])]) _ rfl rfl tightened rfl
  refine ⟨violations, _, returned, rfl, sublist, ?_, rfl⟩
  obtain rfl := Except.ok.inj returned
  rfl

end Store

end Assay

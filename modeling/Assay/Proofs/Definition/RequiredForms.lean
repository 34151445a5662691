import Assay.Proofs.Definition.Acceptance
import Assay.Proofs.Definition.Exchange
import Assay.Proofs.Store.Reachable

/-! The two ways to say that a member is required: the definition of the member calls itself
required, or the definition around it lists the member's name. The first way can be rewritten to the
second one anywhere in a definition.
-/

namespace Assay.Definition
open Assembly

variable {setting : Setting} {members entries others : Members} {keyword : Keyword}

-----------------------------------------------------------------------------------------
-- From the first way to the second one
-----------------------------------------------------------------------------------------

/-- A definition that does not call itself required any more. -/
def unflagged
    : Value → Value
  | .object members =>
      if callsItselfRequired (.object members) then
        .object (members.filter fun entry => entry.1 ≠ Keyword.required.word)
      else .object members
  | value => value

/-- Definitions of members that do not call themselves required any more. -/
def unflaggedEntries (entries : Members)
    : Members :=
  entries.map fun entry => (entry.1, unflagged entry.2)

/-- The names of the members that call themselves required, in order. -/
def flaggedNames (members : Members)
    : List Value :=
  ((definitionsIn members .properties).filter (callsItselfRequired ·.2)).map
    fun entry => .string entry.1

/-- The names that a definition lists as required. -/
def listedNames (members : Members)
    : List Value :=
  match value? members .required with
  | some (.array .list names) => names
  | _ => []

/-- A definition that lists the members that have called themselves required, before the names that
it has listed already. -/
def relisted (members : Members)
    : Members :=
  let names := flaggedNames members ++ listedNames members
  let members := match value? members .properties with
    | some (.object entries) =>
        Value.putMember members Keyword.properties.word (.object (unflaggedEntries entries))
    | _ => members
  Value.putMember members Keyword.required.word (.list names)

/-- The definition of an object that lists its required members, where it says anything of them at
all, is rewritten so that no member calls itself required. -/
inductive Relisted : Value → Value → Prop
  | intro {members : Members} (typed : typeWord? members = some SchemaKind.object.word)
    (listed : Given members .required fun value => isList value)
    (declared : Given members .properties fun value => isObject value)
    : Relisted (.object members) (.object (relisted members))

-----------------------------------------------------------------------------------------
-- Members that do not call themselves required
-----------------------------------------------------------------------------------------

theorem value?_without (members : Members) (keyword : Keyword)
    : value? (members.filter fun entry => entry.1 ≠ Keyword.required.word) keyword
      = if keyword = .required then none else value? members keyword := by
  rw [value?_filter fun name => name ≠ Keyword.required.word]
  by_cases same : keyword = .required
  · simp [same]
  · have other : keyword.word ≠ Keyword.required.word :=
      fun words => same (Keyword.word_injective words)
    simp [same, other]

/-- A definition that calls itself required is compiled as without that, since it is for the
definition around it to know. -/
theorem compile_unflagged (definition : Value)
    : compile setting (unflagged definition) = compile setting definition := by
  cases definition with
  | object members =>
      rw [unflagged]
      split
      · rename_i flagged
        obtain ⟨required, present⟩
            : ∃ required, value? members .required = some (.bool required) := by
          simp only [callsItselfRequired] at flagged
          split at flagged
          · exact ⟨_, ‹_›⟩
          · exact absurd flagged Bool.false_ne_true
        refine (compile_congr fun keyword => ?_).symm
        rw [value?_without]
        by_cases same : keyword = .required
        · rw [if_pos same, same, present]
          exact .flag
        · rw [if_neg same]
          exact .same
      · rfl
  | _ => rfl

theorem not_callsItselfRequired_unflagged (definition : Value)
    : callsItselfRequired (unflagged definition) = false := by
  cases definition with
  | object members =>
      rw [unflagged]
      split
      · simp only [callsItselfRequired, value?_without, if_true]
      · rename_i other
        exact Bool.eq_false_of_not_eq_true other
  | _ => rfl

theorem unflagged_none_flagged (entries : Members)
    : (unflaggedEntries entries).filter (callsItselfRequired ·.2) = [] := by
  refine List.filter_eq_nil_iff.mpr fun entry listed => ?_
  obtain ⟨given, -, rfl⟩ := List.mem_map.mp listed
  rw [not_callsItselfRequired_unflagged]
  exact Bool.false_ne_true

-----------------------------------------------------------------------------------------
-- The parts of an object
-----------------------------------------------------------------------------------------

/-- Members are declared alike, whether they call themselves required or not. -/
theorem addProperties_unflagged (entries : Members) (node : ObjectNode Schema)
    : addProperties node ((unflaggedEntries entries).map (entryOf setting))
      = addProperties node (entries.map (entryOf setting)) := by
  induction entries generalizing node with
  | nil => rfl
  | cons entry rest ih =>
      simp only [unflaggedEntries, List.map_cons, addProperties] at ih ⊢
      simp only [ih, entryOf, compile_unflagged]

/-- The names that a definition calls required: those of members that call themselves required, and
behind them those that it lists itself. -/
def requiredIn (members : Members)
    : Assembly (List Value) := do
  let listed ← listedRequired members
  result (flaggedNames members ++ listed)

/-- What an object is made of: declared members, required names, patterns of names and what is said
of all other members, in this order. -/
theorem objectOf_eq (setting : Setting) (members : Members)
    : objectOf members (entriesAt setting .properties members)
        (entriesAt setting .patternProperties members)
        (childAt setting .additionalProperties members)
      = (do
          expectObject members .properties
          let node ← addProperties {} ((definitionsIn members .properties).map (entryOf setting))
          let names ← requiredIn members
          let node ← assigned ((ObjectNode.setRequired (.list names)).made node)
          expectObject members .patternProperties
          let node ← addPatterns node (entriesAt setting .patternProperties members)
          assignAdditional members (childAt setting .additionalProperties members) node) := by
  simp only [objectOf, entriesAt_eq, flagged_eq, requiredIn, flaggedNames, bind_assoc, result_bind]

theorem requiredIn_eq (listed : Given members .required fun value => isList value)
    : requiredIn members = result (flaggedNames members ++ listedNames members) := by
  unfold requiredIn listedRequired withKeyword listedNames
  cases present : value? members .required with
  | none => rfl
  | some value =>
      have list := listed value present
      cases value with
      | array form names =>
        cases form with
        | list => rfl
        | _ => exact absurd list Bool.false_ne_true
      | _ => exact absurd list Bool.false_ne_true

theorem not_callsItselfRequired_of_listed
    (listed : Given members .required fun value => isList value)
    : callsItselfRequired (.object members) = false := by
  simp only [callsItselfRequired]
  split
  · rename_i present
    exact absurd (listed _ present) Bool.false_ne_true
  · rfl

-----------------------------------------------------------------------------------------
-- Rewritten definitions
-----------------------------------------------------------------------------------------

/-- What a rewritten definition says under a keyword. -/
theorem value?_relisted (declared : Given members .properties fun value => isObject value)
    (keyword : Keyword)
    : value? (relisted members) keyword
      = if keyword = .required then some (.list (flaggedNames members ++ listedNames members))
        else if keyword = .properties then
          (value? members .properties).map
            fun _ => .object (unflaggedEntries (definitionsIn members .properties))
        else value? members keyword := by
  unfold relisted
  rw [value?_putMember]
  by_cases required : keyword = .required
  · rw [if_pos required, if_pos required]
  · rw [if_neg required, if_neg required]
    cases present : value? members .properties with
    | none =>
        by_cases properties : keyword = .properties
        · rw [if_pos properties, properties, present, Option.map_none]
        · rw [if_neg properties]
    | some value =>
        cases value with
        | object entries =>
            simp only [value?_putMember, definitionsIn, present, Option.map_some]
        | _ => exact absurd (declared _ present) Bool.false_ne_true

theorem required_relisted (declared : Given members .properties fun value => isObject value)
    : value? (relisted members) .required
      = some (.list (flaggedNames members ++ listedNames members)) := by
  rw [value?_relisted declared, if_pos rfl]

theorem listed_relisted (declared : Given members .properties fun value => isObject value)
    : Given (relisted members) .required fun value => isList value := by
  intro value present
  obtain rfl := Option.some.inj ((required_relisted declared).symm.trans present)
  rfl

theorem definitionsIn_relisted (declared : Given members .properties fun value => isObject value)
    : definitionsIn (relisted members) .properties
      = unflaggedEntries (definitionsIn members .properties) := by
  simp only [definitionsIn, value?_relisted declared, reduceCtorEq, if_false, if_true]
  cases present : value? members .properties with
  | none => rfl
  | some value => rfl

theorem requiredIn_relisted (listed : Given members .required fun value => isList value)
    (declared : Given members .properties fun value => isObject value)
    : requiredIn (relisted members) = requiredIn members := by
  have unflagged : flaggedNames (relisted members) = [] := by
    rw [flaggedNames, definitionsIn_relisted declared, unflagged_none_flagged, List.map_nil]
  have names : listedNames (relisted members) = flaggedNames members ++ listedNames members := by
    rw [listedNames, required_relisted declared]
    rfl
  rw [requiredIn_eq listed, requiredIn_eq (listed_relisted declared), unflagged, names,
    List.nil_append]

theorem expectObject_relisted (declared : Given members .properties fun value => isObject value)
    (other : keyword ≠ .required)
    : expectObject (relisted members) keyword = expectObject members keyword := by
  simp only [expectObject, withKeyword, value?_relisted declared, if_neg other]
  by_cases properties : keyword = .properties
  · rw [if_pos properties, properties]
    cases present : value? members .properties with
    | none => rfl
    | some value =>
        have object : isObject value := declared value present
        exact (if_pos object).symm
  · rw [if_neg properties]

/-- The same object is made from the rewritten definition, since its members are declared alike and
the same names are required. -/
theorem objectOf_relisted (listed : Given members .required fun value => isList value)
    (declared : Given members .properties fun value => isObject value)
    : objectOf (relisted members) (entriesAt setting .properties (relisted members))
        (entriesAt setting .patternProperties (relisted members))
        (childAt setting .additionalProperties (relisted members))
      = objectOf members (entriesAt setting .properties members)
          (entriesAt setting .patternProperties members)
          (childAt setting .additionalProperties members) := by
  have patterns
      : entriesAt setting .patternProperties (relisted members)
        = entriesAt setting .patternProperties members := by
    simp only [entriesAt_eq, definitionsIn, value?_relisted declared, reduceCtorEq, if_false]
  have additional (node : ObjectNode Schema)
      : assignAdditional (relisted members)
          (childAt setting .additionalProperties (relisted members)) node
        = assignAdditional members (childAt setting .additionalProperties members) node := by
    simp only [assignAdditional, withKeyword, childAt_eq, value?_relisted declared, reduceCtorEq,
      if_false]
  rw [objectOf_eq, objectOf_eq, definitionsIn_relisted declared,
    requiredIn_relisted listed declared, patterns, expectObject_relisted declared (by decide),
    expectObject_relisted declared (by decide)]
  simp only [addProperties_unflagged, additional]

theorem compile_relisted (typed : typeWord? members = some SchemaKind.object.word)
    (listed : Given members .required fun value => isList value)
    (declared : Given members .properties fun value => isObject value)
    : compile setting (.object members) = compile setting (.object (relisted members)) := by
  obtain ⟨stated, typing, reads⟩ := typeOf_of_typeWord typed
  have same (keyword : Keyword) (required : keyword ≠ .required)
      (properties : keyword ≠ .properties)
      : value? (relisted members) keyword = value? members keyword := by
    rw [value?_relisted declared, if_neg required, if_neg properties]
  have types : typeOf (relisted members) = typeOf members := by
    simp only [typeOf, withKeyword, same .type (by decide) (by decide)]
  have rejects (typeName : String)
      : rejectKeywords (relisted members) typeName (Keyword.ofLeaves ++ Keyword.ofArrays)
        = rejectKeywords members typeName (Keyword.ofLeaves ++ Keyword.ofArrays) := by
    refine rejectKeywords_congr (fun keyword present => ?_) typeName
    rw [same keyword (ne_of_mem_of_not_mem present (by decide))
      (ne_of_mem_of_not_mem present (by decide))]
  have other : SchemaKind.object.word ≠ SchemaKind.array.word := by decide
  simp only [compile, same .reference (by decide) (by decide), types, typing, result_bind,
    display_of_text reads, if_neg other, if_true, rejects, objectOf_relisted listed declared]

/-- A definition that is rewritten can be exchanged for what it was before. Neither of the two calls
itself required, since both list names if they have the keyword at all. -/
theorem exchangeable_of_relisted {first second : Value} (rewritten : Relisted first second)
    : Exchangeable setting first second := by
  obtain ⟨typed, listed, declared⟩ := rewritten
  refine ⟨compile_relisted typed listed declared, ?_⟩
  rw [not_callsItselfRequired_of_listed listed,
    not_callsItselfRequired_of_listed (listed_relisted declared)]

/-- A definition is compiled alike after any object in it is rewritten to list its required members:
to the same schema, which finds the same in every document and in which no object requires a name
twice, or to the same failure. -/
theorem compile_eq_of_relisted (setting : Setting) {first second : Value}
    (rewritten : Edited Relisted first second)
    : compile setting first = compile setting second
      ∧ ∀ schema, (compile setting first).outcome = .ok schema → schema.Distinct :=
  ⟨(exchangeable_of_edited exchangeable_of_relisted rewritten).compile_eq,
    fun _ built => compile_distinct built⟩

/-- An array of objects that say what is required of them in their definition. -/
def objectsWith (required : List String) (size : Value)
    : Value :=
  .object
    [("type", .string "array"),
      ("items", .object
        [("type", .string "object"),
          ("required", .list (required.map .string)),
          ("properties", .object [("size", size), ("name", .object [])])])]

/-- Items that list their names as required, and whose size calls itself required, list both: the
size comes first, and it is not required twice because it has been listed before. -/
theorem items_compile_alike
    : compile ⟨true, defaultRegistry, .builtIn⟩
        (objectsWith ["name", "size"]
          (.object [("type", .string "integer"), ("required", .bool true)]))
        = compile ⟨true, defaultRegistry, .builtIn⟩
            (objectsWith ["size", "name", "size"] (.object [("type", .string "integer")]))
      ∧ ∃ schema,
          (compile ⟨true, defaultRegistry, .builtIn⟩
            (objectsWith ["size", "name", "size"]
              (.object [("type", .string "integer")]))).outcome = .ok schema
          ∧ schema.Distinct := by
  have edited
      : Edited Relisted
          (objectsWith ["name", "size"]
            (.object [("type", .string "integer"), ("required", .bool true)]))
          (objectsWith ["size", "name", "size"] (.object [("type", .string "integer")])) :=
    .child (Or.inl rfl) rfl (.here ⟨rfl,
      fun value present => by obtain rfl := Option.some.inj present; rfl,
      fun value present => by obtain rfl := Option.some.inj present; rfl⟩)
  obtain ⟨same, distinct⟩ := compile_eq_of_relisted ⟨true, defaultRegistry, .builtIn⟩ edited
  exact ⟨same, _, rfl, distinct _ (by rw [same]; rfl)⟩

end Assay.Definition

import Assay.Definition.Compile
import Assay.Proofs.Outcome

/-! Assemblies seen from their outcomes: an assembly returns when each of its steps does. What has
been completed on the way does not matter here.
-/

namespace Assay.Definition

variable {α β : Type}

/-- An assembly builds something if that is its outcome. -/
def Assembly.Builds (assembly : Assembly α) (result : α)
    : Prop :=
  assembly.outcome = .ok result

namespace Assembly

theorem result_bind (value : α) (next : α → Assembly β)
    : (result value >>= next) = next value :=
  result_andThen value next

/-- Assemblies in a row build what the second one does with what the first one has built. -/
theorem bind_builds_iff {assembly : Assembly α} {next : α → Assembly β} {result : β}
    : (assembly >>= next).Builds result
      ↔ ∃ value, assembly.Builds value ∧ (next value).Builds result := by
  obtain ⟨completed, outcome⟩ := assembly
  cases outcome with
  | error obstruction => simp [Builds, bind, andThen]
  | ok value => simp [Builds, bind, andThen]

theorem result_builds_iff {value other : α}
    : (result value).Builds other ↔ value = other := by
  simp [Builds, result]

@[simp]
theorem not_refuse_builds {refusal : Refusal} {value : α}
    : ¬ (refuse refusal : Assembly α).Builds value := nofun

/-- An assignment builds what it returns. -/
theorem assigned_builds_iff {step : Except Failure α} {value : α}
    : (assigned step).Builds value ↔ step = .ok value := by
  cases step with
  | ok other => simp [assigned, Builds, result]
  | error failure => cases failure <;> simp [assigned, Builds]

/-- An assembly builds the same wherever it stands. -/
theorem under_builds_iff {assembly : Assembly α} {step : Step} {value : α}
    : (assembly.under step).Builds value ↔ assembly.Builds value := by
  obtain ⟨completed, outcome⟩ := assembly
  cases outcome <;> simp [under, Builds]

theorem under_refused_iff {assembly : Assembly α} {step : Step} {path : Path} {error : Rejection}
    : (assembly.under step).outcome = .error (.refused path error)
      ↔ ∃ rest, path = step :: rest ∧ assembly.outcome = .error (.refused rest error) := by
  obtain ⟨completed, outcome⟩ := assembly
  cases outcome with
  | ok value => simp [under]
  | error obstruction =>
      cases obstruction with
      | refused path error => simp [under, Obstruction.under, eq_comm]
      | stopped fault => simp [under, Obstruction.under]

/-- What is caught is only an obstruction. -/
@[simp]
theorem caught_builds_iff {assembly : Assembly α} {value : α}
    : assembly.caught.Builds value ↔ assembly.Builds value := by
  obtain ⟨completed, outcome⟩ := assembly
  cases outcome <;> simp [caught, Builds, Except.mapError]

/-- An error that is caught is one of a definition. -/
theorem rank_of_caught {assembly : Assembly α} {path : Path} {error : Rejection}
    (refused : assembly.caught.outcome = .error (.refused path error))
    : error.rank = .compilation := by
  obtain ⟨completed, outcome⟩ := assembly
  cases outcome with
  | ok value => cases refused
  | error obstruction =>
      cases obstruction with
      | stopped fault => cases refused
      | refused path other =>
          simp only [caught, Except.mapError, Obstruction.caught] at refused
          cases other <;> cases refused <;> rfl

/-- Nothing has to be caught of what is complete. -/
theorem caught_bind_complete {assembly : Assembly α} {schema : α → Schema}
    : caught (assembly >>= fun value => complete (schema value))
      = caught assembly >>= fun value => complete (schema value) := by
  obtain ⟨completed, outcome⟩ := assembly
  cases outcome <;> rfl

theorem complete_builds_iff {schema other : Schema}
    : (complete schema).Builds other ↔ schema = other := by
  simp [complete, Builds]

-----------------------------------------------------------------------------------------
-- Assemblies that succeed
-----------------------------------------------------------------------------------------

/-- An assembly succeeds if it builds anything. -/
def Succeeds (assembly : Assembly α)
    : Prop :=
  ∃ result, assembly.Builds result

@[simp]
theorem caught_succeeds_iff {assembly : Assembly α}
    : assembly.caught.Succeeds ↔ assembly.Succeeds := by
  simp only [Succeeds, caught_builds_iff]

theorem bind_succeeds_iff {assembly : Assembly α} {next : α → Assembly β}
    : (assembly >>= next).Succeeds ↔ ∃ value, assembly.Builds value ∧ (next value).Succeeds := by
  simp only [Succeeds, bind_builds_iff]
  constructor
  · rintro ⟨result, value, first, rest⟩
    exact ⟨value, first, result, rest⟩
  · rintro ⟨value, first, result, rest⟩
    exact ⟨result, value, first, rest⟩

/-- Assemblies in a row succeed one by one where the second one asks nothing more of the first than
what it always builds. -/
theorem bind_succeeds_iff_of_kept {assembly : Assembly α} {next : α → Assembly β}
    (kept : α → Prop) (keeps : ∀ value, assembly.Builds value → kept value) {first rest : Prop}
    (here : assembly.Succeeds ↔ first)
    (later : ∀ value, kept value → ((next value).Succeeds ↔ rest))
    : (assembly >>= next).Succeeds ↔ first ∧ rest := by
  rw [bind_succeeds_iff, ← here]
  constructor
  · rintro ⟨value, built, succeeds⟩
    exact ⟨⟨value, built⟩, (later value (keeps value built)).mp succeeds⟩
  · rintro ⟨⟨value, built⟩, holds⟩
    exact ⟨value, built, (later value (keeps value built)).mpr holds⟩

/-- Assemblies in a row succeed one by one where the second one asks nothing of the first. -/
theorem bind_succeeds_iff_and {assembly : Assembly α} {next : α → Assembly β} {first rest : Prop}
    (here : assembly.Succeeds ↔ first) (later : ∀ value, (next value).Succeeds ↔ rest)
    : (assembly >>= next).Succeeds ↔ first ∧ rest :=
  bind_succeeds_iff_of_kept (fun _ => True) (fun _ _ => trivial) here fun value _ => later value

/-- Behind what builds one value, the second assembly alone decides. -/
theorem bind_succeeds_iff_of_builds {assembly : Assembly α} {next : α → Assembly β} {value : α}
    (built : assembly.Builds value)
    : (assembly >>= next).Succeeds ↔ (next value).Succeeds := by
  rw [bind_succeeds_iff]
  constructor
  · rintro ⟨other, built', succeeds⟩
    obtain rfl := Except.ok.inj (built.symm.trans built')
    exact succeeds
  · exact fun succeeds => ⟨value, built, succeeds⟩

@[simp]
theorem result_succeeds (value : α)
    : (result value).Succeeds :=
  ⟨value, rfl⟩

@[simp]
theorem not_refuse_succeeds {refusal : Refusal}
    : ¬(refuse refusal : Assembly α).Succeeds := by
  rintro ⟨value, built⟩
  exact not_refuse_builds built

@[simp]
theorem complete_succeeds (schema : Schema)
    : (complete schema).Succeeds :=
  ⟨schema, rfl⟩

theorem assigned_succeeds_iff {step : Except Failure α}
    : (assigned step).Succeeds ↔ ∃ value, step = .ok value := by
  simp only [Succeeds, assigned_builds_iff]

/-- A child whose schema can be used in any case is all that its use asks for. -/
theorem under_then_succeeds_iff {child : Assembly α} {step : Step} {use : α → Assembly β}
    (always : ∀ value, (use value).Succeeds)
    : (child.under step >>= use).Succeeds ↔ child.Succeeds := by
  simp only [bind_succeeds_iff, under_builds_iff, always, and_true]
  rfl

end Assembly
open Assembly

variable {members : Members} {keyword : Keyword}

/-- What depends on a keyword is left as it is where the keyword is absent. -/
theorem withKeyword_builds_iff {unchanged value : α} {use : Value → Assembly α}
    : (withKeyword members keyword unchanged use).Builds value
      ↔ (value? members keyword = none ∧ unchanged = value)
        ∨ ∃ given, value? members keyword = some given ∧ (use given).Builds value := by
  unfold withKeyword
  cases value? members keyword with
  | none => simp [result_builds_iff]
  | some given => simp

/-- A type that cannot be read is refused for the definition itself. -/
theorem typeOf_eq (members : Members)
    : (∃ stated, typeOf members = result stated)
      ∨ ∃ value, value? members .type = some value
        ∧ typeOf members = refuse (.typeNotText value) := by
  unfold typeOf withKeyword
  cases value? members .type with
  | none => exact Or.inl ⟨_, rfl⟩
  | some value =>
      cases text : isText value with
      | true => exact Or.inl ⟨value, by simp [text]⟩
      | false => exact Or.inr ⟨value, rfl, by simp [text]⟩

/-- A definition is refused for itself, or all of what is made from it is caught. -/
theorem compile_cases (setting : Setting) (definition : Value)
    : (∃ refusal, compile setting definition = refuse refusal)
      ∨ ∃ parts, compile setting definition = caught parts := by
  cases definition with
  | object members =>
      rw [compile]
      split_ifs
      · exact Or.inl ⟨.referenceUsed, rfl⟩
      · rcases typeOf_eq members with ⟨stated, typing⟩ | ⟨value, -, typing⟩
        · rw [typing, result_bind]
          exact Or.inr ⟨_, rfl⟩
        · rw [typing]
          exact Or.inl ⟨.typeNotText value, rfl⟩
  | _ => exact Or.inl ⟨_, rfl⟩

/-- Whatever a definition is refused for, the error is one of a definition. -/
theorem compile_rank {setting : Setting} {definition : Value} {path : Path} {error : Rejection}
    (refused : (compile setting definition).outcome = .error (.refused path error))
    : error.rank = .compilation := by
  rcases compile_cases setting definition with ⟨refusal, same⟩ | ⟨parts, same⟩
  · rw [same] at refused
    cases refused
    rfl
  · exact rank_of_caught (same ▸ refused)

-----------------------------------------------------------------------------------------
-- The definitions inside a definition
-----------------------------------------------------------------------------------------

/-- The definitions that stand with names under a keyword. -/
def definitionsIn (members : Members) (keyword : Keyword)
    : Members :=
  match value? members keyword with
  | some (.object entries) => entries
  | _ => []

/-- A definition stands directly inside another one: at a keyword, or with a name under one. -/
inductive Inside : Value → Value → Prop
  | child {members keyword inner} (found : value? members keyword = some inner)
    : Inside inner (.object members)
  | entry {members keyword name inner} (listed : (name, inner) ∈ definitionsIn members keyword)
    : Inside inner (.object members)

theorem sizeOf_lt_of_mem {name : String} {inner : Value} (present : (name, inner) ∈ members)
    : sizeOf inner < sizeOf (Value.object members) := by
  have smaller := List.sizeOf_lt_of_mem present
  simp only [Prod.mk.sizeOf_spec, Value.object.sizeOf_spec] at smaller ⊢
  omega

/-- What stands inside a definition is smaller. -/
theorem sizeOf_lt_of_inside {inner outer : Value} (inside : Inside inner outer)
    : sizeOf inner < sizeOf outer := by
  have present : ∀ {members : Members} {keyword : Keyword} {value : Value},
      value? members keyword = some value → (keyword.word, value) ∈ members := by
    intro members keyword value found
    obtain ⟨before, after, rfl, -⟩ := List.lookup_eq_some_iff.mp found
    exact List.mem_append_right _ List.mem_cons_self
  cases inside with
  | child found => exact sizeOf_lt_of_mem (present found)
  | entry listed =>
      unfold definitionsIn at listed
      split at listed
      · rename_i found
        exact Nat.lt_trans (sizeOf_lt_of_mem listed) (sizeOf_lt_of_mem (present found))
      · nomatch listed

/-- What holds of a definition once it holds of all definitions inside it holds of every
definition. -/
@[elab_as_elim]
theorem insideInduction {motive : Value → Prop}
    (step : ∀ definition, (∀ inner, Inside inner definition → motive inner) → motive definition)
    (definition : Value)
    : motive definition :=
  step definition fun inner inside =>
    have := sizeOf_lt_of_inside inside
    insideInduction step inner
termination_by sizeOf definition

/-- A keyword is looked up in the first member first. -/
theorem value?_cons (name : String) (value : Value) (rest : Members) (keyword : Keyword)
    : value? ((name, value) :: rest) keyword
      = if name = keyword.word then some value else value? rest keyword := by
  unfold value? Value.member?
  rw [List.lookup_cons]
  by_cases same : name = keyword.word
  · simp [same]
  · have other : (keyword.word == name) = false := by simpa using Ne.symm same
    simp [same, other]

/-- A child is the definition at its keyword, compiled. -/
theorem childAt_eq (setting : Setting) (keyword : Keyword) (members : Members)
    : childAt setting keyword members = (value? members keyword).map (compile setting) := by
  induction members with
  | nil => simp [childAt, value?, Value.member?]
  | cons member rest ih =>
      obtain ⟨name, value⟩ := member
      rw [childAt, ih, value?_cons]
      split <;> rfl

/-- A definition with a name, compiled. -/
def entryOf (setting : Setting) (entry : String × Value)
    : Entry :=
  ⟨entry.1, callsItselfRequired entry.2, compile setting entry.2⟩

theorem entriesIn_eq (setting : Setting) (entries : Members)
    : entriesIn setting entries = entries.map (entryOf setting) := by
  induction entries with
  | nil => simp [entriesIn]
  | cons entry rest ih =>
      obtain ⟨name, value⟩ := entry
      simp [entriesIn, ih, entryOf]

/-- The entries under a keyword are the definitions there, compiled. -/
theorem entriesAt_eq (setting : Setting) (keyword : Keyword) (members : Members)
    : entriesAt setting keyword members
      = (definitionsIn members keyword).map (entryOf setting) := by
  unfold definitionsIn
  induction members with
  | nil => simp [entriesAt, value?, Value.member?]
  | cons member rest ih =>
      obtain ⟨name, value⟩ := member
      rw [entriesAt, ih, value?_cons]
      split
      · cases value <;> simp [entriesOf, entriesIn_eq]
      · rfl

/-- The members that are required by their own definitions are the same in every setting. -/
theorem flagged_eq (setting : Setting) (entries : Members)
    : ((entries.map (entryOf setting)).filter (·.isRequired)).map
        (fun entry => Value.string entry.name)
      = (entries.filter (callsItselfRequired ·.2)).map fun entry => Value.string entry.1 := by
  simp [List.filter_map, Function.comp_def, entryOf]

end Assay.Definition

import Assay.Proofs.Definition.Outcomes

/-! The definitions inside a definition in the order in which they are compiled, each with the path
at which it stands. A definition comes behind all those inside it.
-/

namespace Assay.Definition

variable {members : Members} {definition inner : Value} {step : Step} {path : Path}

-----------------------------------------------------------------------------------------
-- Directly inside
-----------------------------------------------------------------------------------------

/-- The definition of the items of an array; a list of items is none. -/
def itemsInside (members : Members)
    : List (Step × Value) :=
  (((value? members .items).filter (!isList ·)).map (.items, ·)).toList

/-- The definitions of the declared members of an object. -/
def propertiesInside (members : Members)
    : List (Step × Value) :=
  (definitionsIn members .properties).map fun entry => (.property entry.1, entry.2)

/-- The definitions that patterns of names stand for. -/
def patternsInside (members : Members)
    : List (Step × Value) :=
  (definitionsIn members .patternProperties).map fun entry => (.pattern entry.1, entry.2)

/-- The definition of additional members; what is no object is none. -/
def additionalInside (members : Members)
    : List (Step × Value) :=
  (((value? members .additionalProperties).filter isObject).map (.additional, ·)).toList

/-- The definitions directly inside a definition, each with the step to it, in order. -/
def directlyInside (members : Members)
    : List (Step × Value) :=
  itemsInside members ++ propertiesInside members ++ patternsInside members
    ++ additionalInside members

theorem inside_of_directlyInside (listed : (step, inner) ∈ directlyInside members)
    : Inside inner (.object members) := by
  simp only [directlyInside, List.mem_append] at listed
  rcases listed with ((items | properties) | patterns) | additional
  · simp only [itemsInside, Option.mem_toList, Option.map_eq_some_iff, Prod.mk.injEq,
      Option.filter_eq_some_iff] at items
    obtain ⟨_, ⟨present, -⟩, -, rfl⟩ := items
    exact .child present
  · obtain ⟨⟨name, _⟩, listed, same⟩ := List.mem_map.mp properties
    obtain ⟨-, rfl⟩ := Prod.mk.inj same
    exact .entry listed
  · obtain ⟨⟨name, _⟩, listed, same⟩ := List.mem_map.mp patterns
    obtain ⟨-, rfl⟩ := Prod.mk.inj same
    exact .entry listed
  · simp only [additionalInside, Option.mem_toList, Option.map_eq_some_iff, Prod.mk.injEq,
      Option.filter_eq_some_iff] at additional
    obtain ⟨_, ⟨present, -⟩, -, rfl⟩ := additional
    exact .child present

-----------------------------------------------------------------------------------------
-- At a path
-----------------------------------------------------------------------------------------

/-- A definition stands at a path inside another one, or is it itself. -/
inductive StandsAt : Value → Path → Value → Prop
  | here (definition : Value) : StandsAt definition [] definition
  | further {members step between path inner}
    (direct : (step, between) ∈ directlyInside members) (rest : StandsAt between path inner)
    : StandsAt (.object members) (step :: path) inner

/-- A definition with its path, seen from one step further up. -/
def entryUnder (step : Step) (entry : Path × Value)
    : Path × Value :=
  (step :: entry.1, entry.2)

/-- A definition with all those inside it, in the order in which they are compiled. -/
def inOrder
    : Value → List (Path × Value)
  | .object members =>
      ((directlyInside members).attach.flatMap fun entry =>
        (inOrder entry.1.2).map (entryUnder entry.1.1))
      ++ [([], .object members)]
  | value => [([], value)]
termination_by definition => sizeOf definition
decreasing_by exact sizeOf_lt_of_inside (inside_of_directlyInside entry.2)

/-- Definitions with the steps to them, and all those inside, in order. -/
def orderOf (definitions : List (Step × Value))
    : List (Path × Value) :=
  definitions.flatMap fun entry => (inOrder entry.2).map (entryUnder entry.1)

theorem orderOf_append (first second : List (Step × Value))
    : orderOf (first ++ second) = orderOf first ++ orderOf second :=
  List.flatMap_append

/-- A definition comes behind those inside it. -/
theorem inOrder_object (members : Members)
    : inOrder (.object members) = orderOf (directlyInside members) ++ [([], .object members)] := by
  rw [inOrder, orderOf]
  conv_rhs => rw [← List.attach_map_subtype_val (directlyInside members), List.flatMap_map]

/-- What comes in order stands at its path, by induction on the definitions inside. -/
theorem standsAt_of_mem_inOrder (listed : (path, inner) ∈ inOrder definition)
    : StandsAt definition path inner := by
  induction definition using insideInduction generalizing path with
  | step definition ih =>
      cases definition with
      | object members =>
          rw [inOrder_object, List.mem_append] at listed
          rcases listed with below | here
          · obtain ⟨⟨step, between⟩, direct, below⟩ := List.mem_flatMap.mp below
            obtain ⟨⟨rest, _⟩, listed, same⟩ := List.mem_map.mp below
            obtain ⟨rfl, rfl⟩ := Prod.mk.inj same
            exact .further direct (ih between (inside_of_directlyInside direct) listed)
          · obtain ⟨rfl, rfl⟩ := Prod.mk.inj (List.mem_singleton.mp here)
            exact .here _
      | _ =>
          rw [inOrder] at listed
          · obtain ⟨rfl, rfl⟩ := Prod.mk.inj (List.mem_singleton.mp listed)
            exact .here _
          · nofun

end Assay.Definition

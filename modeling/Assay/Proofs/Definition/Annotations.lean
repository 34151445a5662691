import Assay.Proofs.Definition.Exchange
import Assay.Proofs.Schema.Distinct

/-! Definitions that are written in another way. Everything that compiling asks of a definition is
looked up under a keyword, so neither the order in which its entries are written nor entries under
other names, its annotations, can be told from what it is compiled to.
-/

namespace Assay.Definition

variable {members others : Members}

-----------------------------------------------------------------------------------------
-- Entries under keywords
-----------------------------------------------------------------------------------------

/-- The entries of a definition that stand under keywords. All others are annotations. -/
def supported (members : Members)
    : Members :=
  members.filter fun entry => (Keyword.ofWord? entry.1).isSome

/-- Annotations do not hide what is said under a keyword. -/
theorem value?_supported (members : Members) (keyword : Keyword)
    : value? (supported members) keyword = value? members keyword := by
  have kept : (Keyword.ofWord? keyword.word).isSome = true := by
    rw [Keyword.ofWord?_word, Option.isSome_some]
  rw [supported, value?_filter (fun name => (Keyword.ofWord? name).isSome), if_pos kept]

/-- Where no name stands twice, a keyword has the value that is listed for it. -/
theorem value?_eq_some_iff (distinct : (members.map (·.1)).Nodup) (keyword : Keyword)
    (value : Value)
    : value? members keyword = some value ↔ (keyword.word, value) ∈ members := by
  constructor
  · exact Value.mem_of_member?
  · intro listed
    obtain ⟨other, found⟩ : ∃ other, value? members keyword = some other := by
      cases found : value? members keyword with
      | some other => exact ⟨other, rfl⟩
      | none =>
          have absent := List.lookup_eq_none_iff.mp found _ listed
          simp at absent
    have same := List.inj_on_of_nodup_map distinct (Value.mem_of_member? found) listed rfl
    rw [found, (Prod.mk.inj same).2]

theorem value?_perm (distinct : (members.map (·.1)).Nodup) (order : members.Perm others)
    (keyword : Keyword)
    : value? members keyword = value? others keyword := by
  have distinct' : (others.map (·.1)).Nodup := (order.map (·.1)).nodup_iff.mp distinct
  refine Option.ext fun value => ?_
  rw [value?_eq_some_iff distinct, value?_eq_some_iff distinct', order.mem_iff]

-----------------------------------------------------------------------------------------
-- Definitions that are written in another way
-----------------------------------------------------------------------------------------

/-- Two definitions have the same entries under keywords, each keyword once, and differ at most in
their annotations and in the order of their entries. -/
inductive Rewritten : Value → Value → Prop
  | intro {members others : Members} (distinct : ((supported members).map (·.1)).Nodup)
    (order : (supported members).Perm (supported others))
    : Rewritten (.object members) (.object others)

/-- A rewritten definition says the same under every keyword. -/
theorem value?_rewritten (distinct : ((supported members).map (·.1)).Nodup)
    (order : (supported members).Perm (supported others)) (keyword : Keyword)
    : value? members keyword = value? others keyword := by
  rw [← value?_supported members, ← value?_supported others]
  exact value?_perm distinct order keyword

theorem exchangeable_of_rewritten {setting : Setting} {first second : Value}
    (rewritten : Rewritten first second)
    : Exchangeable setting first second := by
  obtain ⟨distinct, order⟩ := rewritten
  have same := value?_rewritten distinct order
  constructor
  · refine compile_congr fun keyword => ?_
    rw [same]
    exact .same
  · simp only [callsItselfRequired, same]

/-- Two definitions that differ in how they, and definitions at any depth inside them, are written
are compiled alike: the same parts are completed in the same order, and they come to the same schema
or fail in the same way at the same place. By induction on the definitions that are rewritten, one
after the other. -/
theorem compile_eq_of_rewritten (setting : Setting) {first second : Value}
    (rewritten : Relation.ReflTransGen (Edited Rewritten) first second)
    : compile setting first = compile setting second := by
  induction rewritten with
  | refl => rfl
  | tail _ edited ih =>
      exact ih.trans (exchangeable_of_edited exchangeable_of_rewritten edited).compile_eq

/-- A point of one coordinate, with a title. -/
def titledPoint (coordinate : Value)
    : Value :=
  .object
    [("title", .string "Point"),
      ("type", .string "object"),
      ("properties", .object [("x", coordinate)]),
      ("additionalProperties", .bool false)]

/-- The title of a point is dropped and its entries are reversed, and so are those of its
coordinate, which gets a description. -/
theorem point_compiles_alike
    : compile ⟨true, defaultRegistry, .builtIn⟩
        (titledPoint (.object [("type", .string "number"), ("minimum", .int 0)]))
      = compile ⟨true, defaultRegistry, .builtIn⟩
          (.object
            [("additionalProperties", .bool false),
              ("properties", .object
                [("x", .object
                  [("minimum", .int 0), ("description", .string "from the left"),
                    ("type", .string "number")])]),
              ("type", .string "object")]) := by
  have coordinate
      : Edited Rewritten
          (titledPoint (.object [("type", .string "number"), ("minimum", .int 0)]))
          (titledPoint (.object
            [("minimum", .int 0), ("description", .string "from the left"),
              ("type", .string "number")])) :=
    @Edited.entry _ _ .properties "x" _ _ [] [] (Or.inl rfl) rfl
      (.here ⟨by decide, (List.reverse_perm _).symm⟩)
  exact compile_eq_of_rewritten _
    (.tail (.tail .refl coordinate) (.here ⟨by decide, (List.reverse_perm _).symm⟩))

end Assay.Definition

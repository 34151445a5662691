/-!
Ranks of errors: what is reported when a schema cannot be assembled counts as an error of its own
rank and of every rank before.
-/

namespace Assay

/-- The ranks of errors, each of which is a special case of the one before. -/
inductive Rank where
  | base
  | configuration
  | compilation
deriving DecidableEq, Repr

namespace Rank

/-- How special a rank is. -/
def depth
    : Rank → Nat
  | .base => 0
  | .configuration => 1
  | .compilation => 2

/-- Whether errors of a rank count as errors of another one. -/
def isA (rank other : Rank)
    : Bool :=
  other.depth ≤ rank.depth

/-- Whether errors of a rank count as faults of a value. -/
def isOfValue (rank : Rank)
    : Bool :=
  rank.isA .configuration

/-- The name of a rank. -/
def name
    : Rank → String
  | .base => "JsonConformException"
  | .configuration => "SchemaConfigurationError"
  | .compilation => "SchemaCompilationError"

/-- The words of a name of several capitalised words. -/
def words
    : List Char → List Char
  | [] => []
  | c :: rest =>
      let tail := words rest
      match rest with
      | next :: _ => if next.isUpper then c.toUpper :: '_' :: tail else c.toUpper :: tail
      | [] => [c.toUpper]

/-- The code of a rank: its name in upper case, with its words set apart. -/
def code (rank : Rank)
    : String :=
  "JSONCONFORM_" ++ String.ofList (words rank.name.toList)

end Rank

end Assay

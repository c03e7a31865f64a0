/-!
# Embeddings

An embedding is a vector of single-precision components.  Sums are added in the order of the indices
and start from negative zero.
-/

namespace RecordQuery.Similarity

/-- Why an operation on embeddings fails. -/
inductive EmbeddingError where
  | dimensionMismatch (expected actual : Nat)
  | invalidDimension (dimension : Nat)
deriving DecidableEq, Repr

/-- The wording of an error. -/
def EmbeddingError.message : EmbeddingError → String
  | .dimensionMismatch expected actual =>
    "Embedding dimension mismatch: expected " ++ Nat.repr expected ++ ", got " ++ Nat.repr actual
  | .invalidDimension dimension => "Invalid embedding dimension: " ++ Nat.repr dimension

/-- A vector. -/
structure Embedding where
  components : List Float32

namespace Embedding

/-- The number of components. -/
def dimension (v : Embedding) : Nat := v.components.length

/-- The sum of numbers, added from the left to negative zero. -/
def total (xs : List Float32) : Float32 := xs.foldl (· + ·) (-0.0)

/-- Whether all components are zero. -/
def isZero (v : Embedding) : Bool := v.components.all (· == 0.0)

/-- Whether two embeddings are equal component by component. -/
def equals (v w : Embedding) : Bool := v.components == w.components

/-- The inner product of two embeddings of one dimension. -/
def dot (v w : Embedding) : Except EmbeddingError Float32 :=
  if v.dimension = w.dimension then .ok (total (List.zipWith (· * ·) v.components w.components))
  else .error (.dimensionMismatch v.dimension w.dimension)

/-- The length of a vector. -/
def norm (v : Embedding) : Float32 := (total (v.components.map fun x => x * x)).sqrt

/-- The vector scaled to length one; a zero vector stays as it is. -/
def normalized (v : Embedding) : Embedding :=
  let norm := v.norm
  if 0.0 < norm then { components := v.components.map fun x => x / norm } else v

end Embedding

end RecordQuery.Similarity

import RecordQuery.Order
import RecordQuery.Similarity.Encoder

/-!
# Scores and retrieval

* `Powers`: how strongly a difference of lengths lowers a score.
* `Powers.score`: the inner product of two embeddings, lowered by the quotient of the lengths.
* `search`: the documents whose score lies within bounds, best first.
* `rank`: all texts by their score against a query, best first.
-/

namespace RecordQuery.Similarity

/-- The powers of the quotient of lengths. -/
structure Powers where
  /-- For a query that is shorter than what it is compared with. -/
  query : Float32 := 0.5
  /-- For all other pairs. -/
  document : Float32 := 0.333

namespace Powers

/-- The powers that are used if none are given. -/
def standard : Powers := {}

/-- The factor for the lengths of two texts, if both are known and not zero. -/
def factor? (powers : Powers) (lengthA lengthB : Option Nat) (isQuery : Bool) : Option Float32 :=
  match lengthA, lengthB with
  | some a, some b =>
    if 0 < a ∧ 0 < b then
      let quotient := Float32.ofNat (Nat.min a b) / Float32.ofNat (Nat.max a b)
      let power := if a < b ∧ isQuery then powers.query else powers.document
      some (Float32.pow quotient power)
    else none
  | _, _ => none

/-- The score of two embeddings. -/
def score (powers : Powers) (a b : Embedding) (lengthA lengthB : Option Nat) (isQuery : Bool) :
    Except EmbeddingError Float32 :=
  (a.dot b).map fun product =>
    match powers.factor? lengthA lengthB isQuery with
    | some factor => product * factor
    | none => product

end Powers

/-- The score of two embeddings with the standard powers, the first of them being the query. -/
def similarity (a b : Embedding) (lengthA lengthB : Option Nat) : Except EmbeddingError Float32 :=
  Powers.standard.score a b lengthA lengthB true

/-- Bounds for scores. -/
structure Bounds where
  lower : Float32 := 0.0
  upper : Float32 := 1.0

namespace Bounds

/-- Whether a score lies within bounds; above one it counts as one for the upper bound. -/
def contains (bounds : Bounds) (score : Float32) : Bool :=
  bounds.lower ≤ score && (if 1.0 < score then 1.0 else score) ≤ bounds.upper

end Bounds

/-- A document by its place, and its score. -/
structure Hit where
  index : Nat
  score : Float32

namespace Hit

/-- Whether one hit comes before another: by a higher score, else by its place. -/
def precedes (a b : Hit) : Bool :=
  if b.score < a.score then true
  else if a.score < b.score then false
  else a.index < b.index

/-- The hits, best first. -/
def sorted (hits : List Hit) : List Hit := Order.stableSort precedes hits

end Hit

/-- The scores of documents at their places. -/
def scoreEach {α : Type} (score : α → Except EmbeddingError Float32) (index : Nat) :
    List α → Except EmbeddingError (List Hit)
  | [] => .ok []
  | document :: rest =>
    match score document with
    | .ok found => (scoreEach score (index + 1) rest).map ({ index, score := found } :: ·)
    | .error e => .error e

/-- The documents whose score against a query lies within bounds. -/
def search (powers : Powers) (bounds : Bounds) (query : Embedding) (documents : List Embedding) :
    Except EmbeddingError (List Hit) :=
  (scoreEach (fun document => powers.score query document none none true) 0 documents).map
    fun hits => Hit.sorted (hits.filter fun hit => bounds.contains hit.score)

/-- Texts by their score against a query, the lengths of the texts taken into account. -/
def rank (names : Naming) (encoder : Encoder) (powers : Powers) (query : String)
    (texts : List String) : Except EmbeddingError (List Hit) :=
  let queryEmbedding := encoder.encode names query
  let queryLength := some (effectiveLength query)
  (scoreEach (fun text =>
    powers.score queryEmbedding (encoder.encode names text) queryLength
      (some (effectiveLength text)) true) 0 texts).map Hit.sorted

end RecordQuery.Similarity

import RecordQuery.Json.Fields
import RecordQuery.Similarity.Retrieval

/-!
# Settings

Settings are read from a JSON text; every part of them can be missing.
-/

namespace RecordQuery

open RecordQuery.Json (Tree)
open RecordQuery.Similarity (Powers Bounds Encoder EmbeddingError)

/-- The dimension of embeddings that is used if none is given. -/
def standardDimension : Nat := 512

/-- The settings of a program run. -/
structure Settings where
  dimension : Nat := standardDimension
  powers : Powers := {}
  logLevel : Option String := none

/-- Reads the powers for lengths. -/
def Similarity.Powers.ofTree? (tree : Tree) : Option Powers := do
  let fields ← tree.fields? ["query_power", "document_power"]
  let query ← Tree.fieldOr? Tree.single? Powers.standard.query "query_power" fields
  let document ← Tree.fieldOr? Tree.single? Powers.standard.document "document_power" fields
  return { query, document }

/-- Reads bounds for scores. -/
def Similarity.Bounds.ofTree? (tree : Tree) : Option Bounds := do
  let fields ← tree.fields? ["lower", "upper"]
  let lower ← Tree.fieldOr? Tree.single? 0.0 "lower" fields
  let upper ← Tree.fieldOr? Tree.single? 1.0 "upper" fields
  return { lower, upper }

namespace Settings

/-- Reads the dimension of embeddings. -/
def dimensionOfTree? (tree : Tree) : Option Nat :=
  (tree.fields? ["dimension"]).bind (Tree.fieldOr? Tree.count? standardDimension "dimension")

/-- Reads settings. -/
def ofTree? (tree : Tree) : Option Settings := do
  let fields ← tree.fields? ["encoder", "similarity", "log_level"]
  let dimension ← Tree.fieldOr? dimensionOfTree? standardDimension "encoder" fields
  let powers ← Tree.fieldOr? Powers.ofTree? {} "similarity" fields
  let logLevel ← Tree.fieldOr? Tree.text? none "log_level" fields
  return { dimension, powers, logLevel }

/-- Reads settings from a text. -/
def read? (text : String) : Option Settings := (Tree.read? text).bind ofTree?

/-- The encoder of settings. -/
def encoder (settings : Settings) : Except EmbeddingError Encoder :=
  Encoder.ofDimension settings.dimension

end Settings

end RecordQuery

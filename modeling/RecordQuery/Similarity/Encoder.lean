import RecordQuery.Similarity.Embedding
import RecordQuery.Similarity.Numeral
import RecordQuery.Similarity.Romanization
import RecordQuery.Similarity.Token

/-!
# Encoding texts

A text is written as codes of syllables: Hangul stands for itself, numbers are read out, and other
words are romanised, with the names of their foreign characters.  The codes are counted, and every
count is added to some components of a vector.

* `Encoder.codes`: the codes of a text, with a break between words.
* `spread`: the components that a code adds to, and the halvings of what it adds.
* `accumulate`: the vector of a list of codes, over any numbers that can be added and multiplied.
* `Encoder.encode`: the embedding of a text, of length one unless it is zero.
-/

namespace RecordQuery.Similarity

/-- An encoder for vectors of a dimension. -/
structure Encoder where
  dimension : Nat
  dimension_pos : 0 < dimension

/-- The dimension from which on the extended tables are used. -/
def extendedDimension : Nat := 512

/-- The code between words. -/
def wordBreak : Nat := 0

/-- The places that a code adds to besides its own, with the halvings of what it adds there. -/
def spread (dimension : Nat) : List (Nat × Nat) :=
  [(dimension / 3, 1), (2 * dimension / 3, 2)] ++
    if extendedDimension ≤ dimension then [(dimension / 4, 3), (3 * dimension / 4, 4)] else []

/-- Numbers that counts can be kept in. -/
structure Arithmetic (α : Type) where
  zero : α
  one : α
  add : α → α → α
  mul : α → α → α
  /-- One half, multiplied with itself a number of times. -/
  half : Nat → α

namespace Arithmetic

/-- Single precision. -/
def single : Arithmetic Float32 :=
  { zero := 0.0
    one := 1.0
    add := (· + ·)
    mul := (· * ·)
    half := fun count => (1.0 : Float32) / Float32.ofNat (1 <<< count) }

end Arithmetic

variable {α : Type}

/-- Adds one to the count of a code. -/
def countCode (arithmetic : Arithmetic α) (code : Nat) : List (Nat × α) → List (Nat × α)
  | [] => [(code, arithmetic.add arithmetic.zero arithmetic.one)]
  | (other, count) :: rest =>
    if other = code then (other, arithmetic.add count arithmetic.one) :: rest
    else (other, count) :: countCode arithmetic code rest

/-- The codes with their counts, in the order in which they first occur. -/
def counts (arithmetic : Arithmetic α) (codes : List Nat) : List (Nat × α) :=
  codes.foldl (fun counted code => countCode arithmetic code counted) []

/-- Adds a number to a component. -/
def addAt (arithmetic : Arithmetic α) (vector : Array α) (index : Nat) (x : α) : Array α :=
  vector.modify index fun y => arithmetic.add y x

/-- Adds the count of a code to the components that it goes to. -/
def scatter (arithmetic : Arithmetic α) (dimension : Nat) (vector : Array α)
    (counted : Nat × α) : Array α :=
  let place := counted.1 % dimension
  (spread dimension).foldl
    (fun vector target =>
      addAt arithmetic vector ((place + target.1) % dimension)
        (arithmetic.mul counted.2 (arithmetic.half target.2)))
    (addAt arithmetic vector place counted.2)

/-- The vector of a list of codes. -/
def accumulate (arithmetic : Arithmetic α) (dimension : Nat) (codes : List Nat) : Array α :=
  (counts arithmetic codes).foldl (scatter arithmetic dimension)
    (Array.replicate dimension arithmetic.zero)

namespace Encoder

/-- The encoder of a dimension, which must not be zero. -/
def ofDimension (dimension : Nat) : Except EmbeddingError Encoder :=
  if h : 0 < dimension then .ok { dimension, dimension_pos := h }
  else .error (.invalidDimension dimension)

/-- The tables of an encoder. -/
def spelling (encoder : Encoder) : Spelling :=
  if extendedDimension ≤ encoder.dimension then .extended else .basic

/-- The codes of a token. -/
def tokenCodes (encoder : Encoder) (names : Naming) (token : Token) : List Nat :=
  if token.chars.all isSyllable then token.chars.map codeOf
  else
    match token.isSpoken, token with
    | true, .numeral whole fraction => (readOutDecimal whole fraction).map codeOf
    | _, token => (compose encoder.spelling (romanize names token.chars)).map Syllable.code

/-- The codes of a text; there is a break between words, but none at the ends. -/
def codes (encoder : Encoder) (names : Naming) (text : String) : List Nat :=
  let words := (Token.readAll text.toList).map (encoder.tokenCodes names)
  List.intercalate [wordBreak] (Text.trimBy List.isEmpty words)

/-- The embedding of a list of codes. -/
def embed (encoder : Encoder) (codes : List Nat) : Embedding :=
  Embedding.normalized
    { components := (accumulate .single encoder.dimension codes).toList }

/-- The embedding of a text. -/
def encode (encoder : Encoder) (names : Naming) (text : String) : Embedding :=
  encoder.embed (encoder.codes names text)

end Encoder

end RecordQuery.Similarity

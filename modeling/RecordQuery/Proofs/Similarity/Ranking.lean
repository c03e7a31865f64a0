import RecordQuery.Proofs.Similarity.Accumulation
import RecordQuery.Proofs.Similarity.Naming
import RecordQuery.Proofs.Similarity.Search

/-!
# Ranking texts

All embeddings of an encoder have its dimension, so texts always have scores.  A score is an inner
product times a power of the quotient of the lengths; a zero vector and a power that overflows give
NaN, and nothing takes such a score out before the hits are sorted.

* `Encoder.dimension_encode`: the dimension of an embedding.
* `Powers.score_eq_ok`: the score of two embeddings of one dimension.
* `Powers.isNaN_lowered_iff`: how a score becomes NaN.
* `rank_eq_ok`, `rank_hits`: the hits of a ranking, and when they stand in order.
* `not_before_parted`: hits that a NaN parts.
-/

namespace RecordQuery.Similarity

/-! ### The dimension of an embedding -/

theorem Embedding.dimension_normalized (v : Embedding) : v.normalized.dimension = v.dimension := by
  rw [normalized]
  split
  · exact List.length_map _
  · rfl

theorem Encoder.dimension_encode (encoder : Encoder) (names : Naming) (text : String) :
    (encoder.encode names text).dimension = encoder.dimension := by
  rw [encode, embed, Embedding.dimension_normalized, Embedding.dimension, Array.length_toList,
    size_accumulate]

/-! ### Scores -/

namespace Powers

variable {powers : Powers} {a b : Embedding} {lengthA lengthB : Option Nat} {isQuery : Bool}

/-- The inner product of two embeddings, lowered by the quotient of the lengths. -/
def lowered (powers : Powers) (a b : Embedding) (lengthA lengthB : Option Nat) (isQuery : Bool) :
    Float32 :=
  match powers.factor? lengthA lengthB isQuery with
  | some factor => a.product b * factor
  | none => a.product b

theorem score_eq_ok (h : a.dimension = b.dimension) :
    powers.score a b lengthA lengthB isQuery =
      .ok (powers.lowered a b lengthA lengthB isQuery) := by
  rw [score, Embedding.dot_eq_ok h]
  rfl

theorem lowered_of_pos (powers : Powers) (a b : Embedding) {m n : Nat} (isQuery : Bool)
    (hm : 0 < m) (hn : 0 < n) :
    powers.lowered a b (some m) (some n) isQuery =
      a.product b * Float32.pow (Float32.ofNat (Nat.min m n) / Float32.ofNat (Nat.max m n))
        (if m < n ∧ isQuery then powers.query else powers.document) := by
  rw [lowered, factor?, if_pos ⟨hm, hn⟩]

/-- Embeddings that have nothing in common have NaN as their score exactly when the power is not
finite. -/
theorem isNaN_lowered_iff (h : a.product b = 0.0) :
    (powers.lowered a b lengthA lengthB isQuery).isNaN = true ↔
      ∃ factor, powers.factor? lengthA lengthB isQuery = some factor ∧ factor.isFinite = false := by
  rw [lowered, h]
  cases powers.factor? lengthA lengthB isQuery with
  | none =>
    refine iff_of_false (fun hnan => ?_) fun ⟨_, hfactor, _⟩ => by cases hfactor
    revert hnan
    decide
  | some factor =>
    show (0.0 * factor).isNaN = true ↔ _
    rw [Binary32.isNaN_zero_mul_iff]
    constructor
    · intro hinfinite
      exact ⟨factor, rfl, hinfinite⟩
    · rintro ⟨_, hfactor, hinfinite⟩
      rwa [Option.some.inj hfactor]

end Powers

/-! ### Hits -/

theorem score_encode (names : Naming) (encoder : Encoder) (powers : Powers) (query text : String)
    (lengthA lengthB : Option Nat) (isQuery : Bool) :
    powers.score (encoder.encode names query) (encoder.encode names text) lengthA lengthB isQuery =
      .ok (powers.lowered (encoder.encode names query) (encoder.encode names text) lengthA
        lengthB isQuery) :=
  Powers.score_eq_ok (by rw [Encoder.dimension_encode, Encoder.dimension_encode])

/-- Texts always have hits: one for each of them, sorted. -/
theorem rank_eq_ok (names : Naming) (encoder : Encoder) (powers : Powers) (query : String)
    (texts : List String) :
    rank names encoder powers query texts =
      .ok (Hit.sorted (hitsOf (fun text =>
        powers.lowered (encoder.encode names query) (encoder.encode names text)
          (some (effectiveLength query)) (some (effectiveLength text)) true) texts)) := by
  rw [rank, scoreEach_eq_ok fun text _ => score_encode names encoder powers query text _ _ _]
  rfl

/--
**A ranking returns every text once, in order unless a NaN parts the scores.**  It never fails, and
its hits are the texts with their scores, each text once.  The hits stand in the order of the test
that sorts them, each before all that follow, exactly when no NaN stands between a text of a lower
score and one of a higher score behind it; then hits that are not NaN stand by falling scores, and
with equal scores by their places.
-/
theorem rank_hits (names : Naming) (encoder : Encoder) (powers : Powers) (query : String)
    (texts : List String) :
    ∃ hits, rank names encoder powers query texts = .ok hits ∧
      (hits.map Hit.index).Perm (List.range texts.length) ∧
      (∀ hit ∈ hits, ∃ text, texts[hit.index]? = some text ∧
        powers.score (encoder.encode names query) (encoder.encode names text)
          (some (effectiveLength query)) (some (effectiveLength text)) true = .ok hit.score) ∧
      ((hits.Pairwise fun a b => a.precedes b = true) ↔ Hit.Unparted hits) ∧
      (Hit.Unparted hits → hits.Pairwise fun a b =>
        a.score.isNaN = false → b.score.isNaN = false → a.Before b) := by
  refine ⟨_, rank_eq_ok names encoder powers query texts, ?_, fun hit hhit => ?_, ?_⟩
  · rw [← map_index_hitsOf]
    exact (Hit.perm_sorted _).map Hit.index
  · obtain ⟨text, htext, hscore⟩ := mem_hitsOf.mp ((Hit.perm_sorted _).mem_iff.mp hhit)
    exact ⟨text, htext, by rw [score_encode, hscore]⟩
  · rw [Hit.unparted_sorted_iff]
    have hiff := Hit.pairwise_sorted_iff (nodup_index_hitsOf (fun text =>
      powers.lowered (encoder.encode names query) (encoder.encode names text)
        (some (effectiveLength query)) (some (effectiveLength text)) true) texts)
    refine ⟨hiff, fun hunparted => (hiff.mpr hunparted).imp fun hab ha hb => ?_⟩
    exact (Hit.precedes_iff_before ha hb).mp hab

/-- Two texts leave no room between them for a NaN. -/
theorem rank_hits_two :
    ∃ hits, rank .sample ⟨256, by decide⟩ .standard "han guk" ["han mun", "han guk"] =
      .ok hits ∧
      (hits.map Hit.index).Perm [0, 1] ∧ (hits.Pairwise fun a b => a.precedes b = true) ∧
      hits.Pairwise fun a b => a.score.isNaN = false → b.score.isNaN = false → a.Before b := by
  obtain ⟨hits, hok, hperm, -, hiff, hordered⟩ :=
    rank_hits .sample ⟨256, by decide⟩ .standard "han guk" ["han mun", "han guk"]
  have hindex : ∀ hit ∈ hits, hit.index < 2 := fun hit hhit =>
    List.mem_range.mp (hperm.mem_iff.mp (List.mem_map_of_mem hhit))
  have hunparted : Hit.Unparted hits := by
    intro low _ gap _ high hhigh hbefore hbehind
    have hlt := hindex high hhigh
    omega
  exact ⟨hits, hok, hperm, hiff.mpr hunparted, hordered hunparted⟩

/--
Three texts that a NaN parts: the second one has no syllable, and its length is a sixth of the
query's.  The logic does not know the power function, so the two powers that the scores are lowered
by are given: that of one, and that of a sixth, which overflows.  Then the text with the highest
score stands last.
-/
theorem not_before_parted :
    let encoder : Encoder := { dimension := 64, dimension_pos := by decide }
    let powers : Powers := { query := 0.5, document := -200.0 }
    ∃ hits, rank .sample encoder powers "han guk" ["han mun", "z", "han guk"] = .ok hits ∧
      (Float32.pow 1.0 (-200.0) = 1.0 → Float32.pow (1.0 / 6.0) (-200.0) = 1.0 / 0.0 →
        hits.map Hit.index = [0, 1, 2] ∧ ¬Hit.Unparted hits ∧
          ¬hits.Pairwise fun a b =>
            a.score.isNaN = false → b.score.isNaN = false → a.Before b) := by
  intro encoder powers
  refine ⟨_, rank_eq_ok .sample encoder powers "han guk" _, fun hone hsixth => ?_⟩
  let product := fun text =>
    (encoder.encode .sample "han guk").product (encoder.encode .sample text)
  let low : Hit := ⟨0, product "han mun" * 1.0⟩
  let gap : Hit := ⟨1, product "z" * (1.0 / 0.0)⟩
  let high : Hit := ⟨2, product "han guk" * 1.0⟩
  have hhits : hitsOf (fun text => powers.lowered (encoder.encode .sample "han guk")
      (encoder.encode .sample text) (some (effectiveLength "han guk"))
        (some (effectiveLength text)) true) ["han mun", "z", "han guk"] = [low, gap, high] := by
    have hquery : effectiveLength "han guk" = 6 := by decide +kernel
    have hlow : effectiveLength "han mun" = 6 := by decide +kernel
    have hgap : effectiveLength "z" = 1 := by decide +kernel
    have hsame : Float32.ofNat (Nat.min 6 6) / Float32.ofNat (Nat.max 6 6) = 1.0 := by
      decide +kernel
    have hshort : Float32.ofNat (Nat.min 6 1) / Float32.ofNat (Nat.max 6 1) = 1.0 / 6.0 := by
      decide +kernel
    have hdocument : ∀ text, powers.lowered (encoder.encode .sample "han guk")
        (encoder.encode .sample text) (some 6) (some 6) true = product text * 1.0 := fun text => by
      rw [Powers.lowered_of_pos _ _ _ _ (by decide) (by decide), hsame, if_neg (by decide), hone]
    simp only [hitsOf, List.zipIdx_cons, List.zipIdx_nil, List.map_cons, List.map_nil, hquery,
      hlow, hgap, hdocument]
    rw [Powers.lowered_of_pos _ _ _ _ (by decide) (by decide), hshort, if_neg (by decide), hsixth]
  have hnan : gap.score.isNaN = true := by decide +kernel
  have hlt : low.score < high.score := by decide +kernel
  have hsorted : Hit.sorted [low, gap, high] = [low, gap, high] :=
    Hit.sorted_of_isNaN hnan (Nat.lt_succ_self 0) (Nat.lt_succ_self 1)
  rw [hhits, hsorted]
  refine ⟨rfl, fun hunparted => ?_, Hit.not_pairwise_before_of_lt ?_ hlt⟩
  · exact hunparted low (by simp) gap (by simp) high (by simp) (Nat.lt_succ_self 0)
      (Nat.lt_succ_self 1) hnan hlt
  · exact .cons_cons low (List.sublist_cons_self gap [high])

end RecordQuery.Similarity

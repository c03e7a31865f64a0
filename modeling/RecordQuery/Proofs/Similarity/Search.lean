import RecordQuery.Proofs.Similarity.Hits

/-!
# Searching documents

The scores of a search are inner products.  A score that is NaN lies within no bounds, so the hits
of a search have none, and the test that sorts them is an order on them.

* `Embedding.dot_eq_ok`, `Embedding.dot_eq_error`: when two embeddings have an inner product.
* `scoreEach_eq_ok`, `exists_scoreEach_eq_error`: the scores of a list of documents.
* `Bounds.contains_iff`: the scores within bounds.
* `search_eq_ok`, `exists_search_eq_error_iff`: when a search has hits.
* `search_hits`: the hits of a search.
-/

namespace RecordQuery.Similarity

namespace Embedding

/-- The sum of the products of the components. -/
def product (v w : Embedding) : Float32 :=
  total (List.zipWith (· * ·) v.components w.components)

theorem dot_eq_ok {v w : Embedding} (h : v.dimension = w.dimension) :
    v.dot w = .ok (v.product w) := by rw [dot, if_pos h, product]

theorem dot_eq_error {v w : Embedding} (h : v.dimension ≠ w.dimension) :
    v.dot w = .error (.dimensionMismatch v.dimension w.dimension) := by rw [dot, if_neg h]

end Embedding

theorem Powers.score_none (powers : Powers) (a b : Embedding) (isQuery : Bool) :
    powers.score a b none none isQuery = a.dot b := by
  rw [score]
  cases a.dot b <;> rfl

/-! ### The scores of a list -/

section Scores

variable {α : Type} {score : α → Except EmbeddingError Float32} {f : α → Float32}

/-- The hits with given scores, each document at its place. -/
def hitsOf (f : α → Float32) (documents : List α) : List Hit :=
  documents.zipIdx.map fun placed => { index := placed.2, score := f placed.1 }

theorem scoreEach_eq_ok {documents : List α}
    (h : ∀ document ∈ documents, score document = .ok (f document)) (index : Nat) :
    scoreEach score index documents =
      .ok ((documents.zipIdx index).map
        fun placed => { index := placed.2, score := f placed.1 }) := by
  induction documents generalizing index with
  | nil => rfl
  | cons document rest ih =>
    rw [List.forall_mem_cons] at h
    rw [scoreEach, h.1, ih h.2]
    rfl

/-- One document without a score leaves the list without scores. -/
theorem exists_scoreEach_eq_error (score : α → Except EmbeddingError Float32) {documents : List α}
    {document : α} {e : EmbeddingError} (hdocument : document ∈ documents)
    (h : score document = .error e) (index : Nat) :
    ∃ e, scoreEach score index documents = .error e := by
  induction documents generalizing index with
  | nil => cases hdocument
  | cons first rest ih =>
    rw [scoreEach]
    cases hfirst : score first with
    | error e => exact ⟨e, rfl⟩
    | ok found =>
      rcases List.mem_cons.mp hdocument with rfl | hdocument
      · rw [h] at hfirst
        cases hfirst
      · obtain ⟨e, he⟩ := ih hdocument (index + 1)
        exact ⟨e, by rw [he]; rfl⟩

theorem mem_hitsOf {documents : List α} {hit : Hit} :
    hit ∈ hitsOf f documents ↔
      ∃ document, documents[hit.index]? = some document ∧ f document = hit.score := by
  rw [hitsOf, List.mem_map]
  constructor
  · rintro ⟨⟨document, index⟩, hplaced, rfl⟩
    exact ⟨document, List.mem_zipIdx_iff_getElem?.mp hplaced, rfl⟩
  · rintro ⟨document, hdocument, hscore⟩
    refine ⟨(document, hit.index), List.mem_zipIdx_iff_getElem?.mpr hdocument, ?_⟩
    rw [hscore]

theorem map_index_hitsOf (f : α → Float32) (documents : List α) :
    (hitsOf f documents).map Hit.index = List.range documents.length := by
  rw [hitsOf, List.map_map, List.range_eq_range', ← List.zipIdx_map_snd]
  rfl

theorem nodup_index_hitsOf (f : α → Float32) (documents : List α) :
    ((hitsOf f documents).map Hit.index).Nodup := by
  rw [map_index_hitsOf]
  exact List.nodup_range

end Scores

/-! ### Bounds -/

/-- The scores within bounds; the comparison with the lower bound leaves NaN out. -/
theorem Bounds.contains_iff {bounds : Bounds} {score : Float32} :
    bounds.contains score = true ↔ bounds.lower ≤ score ∧ min score 1.0 ≤ bounds.upper := by
  rw [contains, Bool.and_eq_true, decide_eq_true_iff, decide_eq_true_iff]
  refine and_congr_right fun hlower => ?_
  have hscore : score.isNaN = false := (Binary32.isNaN_eq_false_of_le hlower).2
  have hone : (1.0 : Float32).isNaN = false := by decide
  have hmin : min score 1.0 = if 1.0 < score then 1.0 else score := by
    show (if score ≤ 1.0 then score else 1.0) = _
    by_cases h : (1.0 : Float32) < score
    · rw [if_pos h, if_neg fun hle => (Binary32.le_iff_not_lt hscore hone).mp hle h]
    · rw [if_neg h, if_pos ((Binary32.le_iff_not_lt hscore hone).mpr h)]
  rw [hmin]

theorem Bounds.isNaN_eq_false_of_contains {bounds : Bounds} {score : Float32}
    (h : bounds.contains score = true) : score.isNaN = false :=
  (Binary32.isNaN_eq_false_of_le (contains_iff.mp h).1).2

/-! ### Hits -/

/-- Documents of the dimension of the query have hits: those within bounds, sorted. -/
theorem search_eq_ok (powers : Powers) (bounds : Bounds) {query : Embedding}
    {documents : List Embedding}
    (h : ∀ document ∈ documents, document.dimension = query.dimension) :
    search powers bounds query documents =
      .ok (Hit.sorted ((hitsOf query.product documents).filter
        fun hit => bounds.contains hit.score)) := by
  have hscores : ∀ document ∈ documents,
      powers.score query document none none true = .ok (query.product document) := by
    intro document hd
    rw [Powers.score_none, Embedding.dot_eq_ok (h document hd).symm]
  rw [search, scoreEach_eq_ok hscores]
  rfl

theorem exists_search_eq_error (powers : Powers) (bounds : Bounds) {query document : Embedding}
    {documents : List Embedding} (hdocument : document ∈ documents)
    (h : document.dimension ≠ query.dimension) :
    ∃ e, search powers bounds query documents = .error e := by
  have hscore : powers.score query document none none true =
      .error (.dimensionMismatch query.dimension document.dimension) := by
    rw [Powers.score_none, Embedding.dot_eq_error h.symm]
  obtain ⟨e, he⟩ := exists_scoreEach_eq_error
    (fun document => powers.score query document none none true) hdocument hscore 0
  exact ⟨e, by rw [search, he]; rfl⟩

/-- A search fails exactly when a document has another dimension than the query. -/
theorem exists_search_eq_error_iff {powers : Powers} {bounds : Bounds} {query : Embedding}
    {documents : List Embedding} :
    (∃ e, search powers bounds query documents = .error e) ↔
      ∃ document ∈ documents, document.dimension ≠ query.dimension := by
  constructor
  · rintro ⟨e, he⟩
    refine Classical.byContradiction fun hnone => ?_
    have hall : ∀ document ∈ documents, document.dimension = query.dimension := fun document hd =>
      Classical.byContradiction fun hne => hnone ⟨document, hd, hne⟩
    rw [search_eq_ok powers bounds hall] at he
    cases he
  · rintro ⟨document, hdocument, h⟩
    exact exists_search_eq_error powers bounds hdocument h

theorem mem_filter_hitsOf {bounds : Bounds} {query : Embedding} {documents : List Embedding}
    (h : ∀ document ∈ documents, document.dimension = query.dimension) {hit : Hit} :
    (hit ∈ (hitsOf query.product documents).filter fun hit => bounds.contains hit.score) ↔
      (∃ document, documents[hit.index]? = some document ∧ query.dot document = .ok hit.score) ∧
        bounds.lower ≤ hit.score ∧ min hit.score 1.0 ≤ bounds.upper := by
  rw [List.mem_filter, mem_hitsOf, Bounds.contains_iff]
  refine and_congr_left fun _ => exists_congr fun document => and_congr_right fun hdocument => ?_
  rw [Embedding.dot_eq_ok (h document (List.mem_of_getElem? hdocument)).symm, Except.ok.injEq]

/--
**A search finds what lies within bounds, best first.**  It fails exactly when a document has
another dimension than the query.  Else its hits are the documents whose inner product with the
query lies within the bounds, each of them once, by falling scores and with equal scores by their
places.  No score among the hits is NaN, and the test that sorts them is an order on them.
-/
theorem search_hits (powers : Powers) (bounds : Bounds) (query : Embedding)
    (documents : List Embedding) :
    ((∃ e, search powers bounds query documents = .error e) ↔
        ∃ document ∈ documents, document.dimension ≠ query.dimension) ∧
      ((∀ document ∈ documents, document.dimension = query.dimension) →
        ∃ hits, search powers bounds query documents = .ok hits ∧
          (∀ hit : Hit, hit ∈ hits ↔
            (∃ document, documents[hit.index]? = some document ∧
              query.dot document = .ok hit.score) ∧
            bounds.lower ≤ hit.score ∧ min hit.score 1.0 ≤ bounds.upper) ∧
          (hits.map Hit.index).Nodup ∧ hits.Pairwise Hit.Before ∧
          (∀ hit ∈ hits, hit.score.isNaN = false) ∧ Order.StrictOrderOn Hit.precedes hits) := by
  refine ⟨exists_search_eq_error_iff, fun h => ⟨_, search_eq_ok powers bounds h, ?_⟩⟩
  have hmem := @mem_filter_hitsOf bounds query documents h
  have hplaces : (((hitsOf query.product documents).filter
      fun hit => bounds.contains hit.score).map Hit.index).Nodup :=
    (List.filter_sublist.map Hit.index).nodup (nodup_index_hitsOf query.product documents)
  have hnumbers : ∀ hit ∈ (hitsOf query.product documents).filter
      (fun hit => bounds.contains hit.score), hit.score.isNaN = false := fun hit hhit =>
    Bounds.isNaN_eq_false_of_contains (List.mem_filter.mp hhit).2
  generalize (hitsOf query.product documents).filter (fun hit => bounds.contains hit.score) =
    found at *
  have hperm := Hit.perm_sorted found
  have hsorted := fun hit (hhit : hit ∈ Hit.sorted found) => hnumbers hit (hperm.mem_iff.mp hhit)
  have hunparted := Hit.unparted_of_isNaN_eq_false hnumbers
  refine ⟨fun hit => hperm.mem_iff.trans hmem, (hperm.map Hit.index).nodup_iff.mpr hplaces, ?_,
    hsorted, ?_⟩
  · refine ((Hit.pairwise_sorted_iff hplaces).mpr hunparted).imp_of_mem fun ha hb hab => ?_
    exact (Hit.precedes_iff_before (hsorted _ ha) (hsorted _ hb)).mp hab
  · exact ((Hit.strictOrderOn_precedes_iff (Hit.eq_of_index_eq hplaces)).mpr hunparted).of_subset
      fun hit hhit => hperm.mem_iff.mp hhit

/-- A score above one counts as one for the upper bound, and a document with a NaN is not found. -/
theorem search_hits_nan :
    (∀ document ∈ [⟨[0.5, 0.0]⟩, ⟨[2.0, 7.0]⟩, ⟨[0.0 / 0.0, 1.0]⟩],
      Embedding.dimension document = Embedding.dimension ⟨[1.0, 0.0]⟩) ∧
    ∃ hits, search .standard {} ⟨[1.0, 0.0]⟩ [⟨[0.5, 0.0]⟩, ⟨[2.0, 7.0]⟩, ⟨[0.0 / 0.0, 1.0]⟩] =
        .ok hits ∧
      { index := 0, score := 0.5 } ∈ hits ∧ { index := 1, score := 2.0 } ∈ hits ∧
      (∀ hit ∈ hits, hit.index ≠ 2) ∧ (hits.map Hit.index).Nodup ∧ hits.Pairwise Hit.Before ∧
      Order.StrictOrderOn Hit.precedes hits := by
  have hdimension : ∀ document ∈ [⟨[0.5, 0.0]⟩, ⟨[2.0, 7.0]⟩, ⟨[0.0 / 0.0, 1.0]⟩],
      Embedding.dimension document = Embedding.dimension ⟨[1.0, 0.0]⟩ := by
    simp [Embedding.dimension]
  obtain ⟨hits, hok, hmem, hnodup, hbefore, hnumbers, hstrict⟩ :=
    (search_hits .standard {} ⟨[1.0, 0.0]⟩ [⟨[0.5, 0.0]⟩, ⟨[2.0, 7.0]⟩, ⟨[0.0 / 0.0, 1.0]⟩]).2
      hdimension
  refine ⟨hdimension, hits, hok, ?_, ?_, fun hit hhit hindex => ?_, hnodup, hbefore, hstrict⟩
  · exact (hmem _).mpr ⟨⟨_, rfl, rfl⟩, by decide +kernel⟩
  · exact (hmem _).mpr ⟨⟨_, rfl, rfl⟩, by decide +kernel⟩
  · obtain ⟨⟨document, hdocument, hdot⟩, -⟩ := (hmem hit).mp hhit
    rw [hindex] at hdocument
    cases hdocument
    have hscore : hit.score = Embedding.product ⟨[1.0, 0.0]⟩ ⟨[0.0 / 0.0, 1.0]⟩ :=
      (Except.ok.inj hdot).symm
    have hnan := hnumbers hit hhit
    rw [hscore] at hnan
    revert hnan
    decide +kernel

end RecordQuery.Similarity

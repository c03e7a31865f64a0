import Mathlib.Data.List.Nodup
import RecordQuery.Proofs.Binary32.Comparison
import RecordQuery.Proofs.Sorting.Strict
import RecordQuery.Similarity.Retrieval

/-!
# The order of hits

A hit comes before another one by a higher score, else by its place.  A score that is NaN is neither
above nor below any other, so that then the places decide, and the three ways to decide can run in a
circle: a low score, a NaN behind it and a high score behind both.  Without such a circle hits are
sorted as they should.

* `Hit.Before`: the order by falling scores, with ties by the place.
* `Hit.precedes_iff_before`, `Hit.precedes_iff_of_isNaN`: the test with and without NaN.
* `Hit.Unparted`: no NaN stands between a lower score and a higher one.
* `Hit.strictOrderOn_precedes_iff`: the test is an order on hits exactly when they are unparted.
* `Hit.pairwise_sorted_iff`: and only then the sorted hits stand in order throughout.
-/

namespace RecordQuery.Similarity.Hit

open Std (TransCmp)

/-- The order of hits by falling scores, those of equal scores by their places. -/
def Before (a b : Hit) : Prop :=
  b.score < a.score ∨ (a.score == b.score) = true ∧ a.index < b.index

/-- No hit with a NaN stands between one of a lower score and one of a higher score behind it. -/
def Unparted (hits : List Hit) : Prop :=
  ∀ low ∈ hits, ∀ gap ∈ hits, ∀ high ∈ hits, low.index < gap.index → gap.index < high.index →
    gap.score.isNaN = true → ¬low.score < high.score

/-- Falling scores, and rising places where the scores are equal. -/
def order (a b : Hit) : Ordering :=
  (Binary32.order b.score a.score).then (compare a.index b.index)

instance : TransCmp order :=
  have : TransCmp fun a b : Hit => Binary32.order b.score a.score :=
    { eq_swap := Std.OrientedCmp.eq_swap
      isLE_trans := fun hab hbc => TransCmp.isLE_trans hbc hab }
  have : TransCmp fun a b : Hit => compare a.index b.index := Order.transCmp_on Hit.index
  Order.transCmp_then

/-! ### The test -/

theorem precedes_iff {a b : Hit} : a.precedes b = true ↔
    b.score < a.score ∨ ¬a.score < b.score ∧ a.index < b.index := by
  rw [precedes]
  by_cases hba : b.score < a.score
  · simp [hba]
  · by_cases hab : a.score < b.score
    · simp [hba, hab]
    · simp [hba, hab]

theorem precedes_iff_order {a b : Hit} (ha : a.score.isNaN = false) (hb : b.score.isNaN = false) :
    a.precedes b = true ↔ order a b = .lt := by
  rw [precedes_iff, Binary32.lt_iff_order hb ha, Binary32.lt_iff_order ha hb, order,
    Ordering.then_eq_lt, Nat.compare_eq_lt, Binary32.order_swap b.score a.score]
  cases Binary32.order b.score a.score <;> simp

/-- Off NaN, the test is the order by falling scores. -/
theorem precedes_iff_before {a b : Hit} (ha : a.score.isNaN = false) (hb : b.score.isNaN = false) :
    a.precedes b = true ↔ a.Before b := by
  rw [precedes_iff_order ha hb, order, Ordering.then_eq_lt, Nat.compare_eq_lt, Before,
    Binary32.lt_iff_order hb ha, Binary32.beq_iff_order ha hb,
    Binary32.order_swap b.score a.score, Ordering.swap_eq_eq]

/-- With a NaN on either side the places decide. -/
theorem precedes_iff_of_isNaN {a b : Hit} (h : a.score.isNaN = true ∨ b.score.isNaN = true) :
    a.precedes b = true ↔ a.index < b.index := by
  have hba : ¬b.score < a.score := Binary32.not_lt_of_isNaN h.symm
  have hab : ¬a.score < b.score := Binary32.not_lt_of_isNaN h
  rw [precedes_iff]
  simp [hba, hab]

theorem precedes_asymm {a b : Hit} (h : a.precedes b = true) : b.precedes a = false := by
  rw [← Bool.not_eq_true, precedes_iff]
  rcases precedes_iff.mp h with h | ⟨h, hindex⟩
  · rintro (hback | ⟨hback, -⟩)
    · exact Binary32.lt_asymm h hback
    · exact hback h
  · rintro (hback | ⟨-, hback⟩)
    · exact h hback
    · exact Nat.lt_asymm hindex hback

theorem not_before_of_lt {a b : Hit} (h : a.score < b.score) : ¬a.Before b := by
  obtain ⟨ha, hb⟩ := Binary32.isNaN_eq_false_of_lt h
  rw [← precedes_iff_before ha hb, precedes_asymm (precedes_iff.mpr (Or.inl h))]
  exact Bool.false_ne_true

theorem precedes_total {a b : Hit} (h : a.index ≠ b.index) :
    a.precedes b = true ∨ b.precedes a = true := by
  rw [precedes_iff, precedes_iff]
  by_cases hab : a.score < b.score
  · exact Or.inr (Or.inl hab)
  · by_cases hba : b.score < a.score
    · exact Or.inl (Or.inl hba)
    · rcases Nat.lt_or_gt_of_ne h with h | h
      · exact Or.inl (Or.inr ⟨hab, h⟩)
      · exact Or.inr (Or.inr ⟨hba, h⟩)

/-! ### Unparted hits -/

theorem unparted_of_isNaN_eq_false {hits : List Hit}
    (h : ∀ hit ∈ hits, hit.score.isNaN = false) : Unparted hits := by
  intro _ _ gap hgap _ _ _ _ hnan
  rw [h gap hgap] at hnan
  cases hnan

theorem Unparted.of_subset {xs ys : List Hit} (h : Unparted ys) (hsub : ∀ hit ∈ xs, hit ∈ ys) :
    Unparted xs := fun low hlow gap hgap high hhigh =>
  h low (hsub low hlow) gap (hsub gap hgap) high (hsub high hhigh)

theorem index_ne_of_isNaN {hits : List Hit}
    (hdistinct : ∀ a ∈ hits, ∀ b ∈ hits, a.index = b.index → a = b) {a b : Hit} (ha : a ∈ hits)
    (hb : b ∈ hits) (hna : a.score.isNaN = true) (hnb : b.score.isNaN = false) :
    a.index ≠ b.index := by
  intro heq
  rw [hdistinct a ha b hb heq, hnb] at hna
  cases hna

theorem Unparted.precedes_trans {hits : List Hit} (h : Unparted hits)
    (hdistinct : ∀ a ∈ hits, ∀ b ∈ hits, a.index = b.index → a = b) {a b c : Hit} (ha : a ∈ hits)
    (hb : b ∈ hits) (hc : c ∈ hits) (hab : a.precedes b = true) (hbc : b.precedes c = true) :
    a.precedes c = true := by
  -- the cases are which of the three scores are NaN
  cases hna : a.score.isNaN with
  | true =>
    rw [precedes_iff_of_isNaN (Or.inl hna)] at hab ⊢
    rcases precedes_iff.mp hbc with hscore | ⟨-, hindex⟩
    · have hne := index_ne_of_isNaN hdistinct ha hc hna (Binary32.isNaN_eq_false_of_lt hscore).1
      have hnot : ¬c.index < a.index := fun hgt => h c hc a ha b hb hgt hab hna hscore
      omega
    · exact Nat.lt_trans hab hindex
  | false =>
    cases hnc : c.score.isNaN with
    | true =>
      rw [precedes_iff_of_isNaN (Or.inr hnc)] at hbc ⊢
      rcases precedes_iff.mp hab with hscore | ⟨-, hindex⟩
      · have hne := index_ne_of_isNaN hdistinct hc ha hnc hna
        have hnot : ¬c.index < a.index := fun hgt => h b hb c hc a ha hbc hgt hnc hscore
        omega
      · exact Nat.lt_trans hindex hbc
    | false =>
      cases hnb : b.score.isNaN with
      | true =>
        rw [precedes_iff_of_isNaN (Or.inr hnb)] at hab
        rw [precedes_iff_of_isNaN (Or.inl hnb)] at hbc
        rw [precedes_iff]
        exact Or.inr ⟨h a ha b hb c hc hab hbc hnb, Nat.lt_trans hab hbc⟩
      | false =>
        rw [precedes_iff_order hna hnb] at hab
        rw [precedes_iff_order hnb hnc] at hbc
        rw [precedes_iff_order hna hnc]
        exact TransCmp.lt_trans hab hbc

/-- **The test is an order on hits exactly when no NaN parts a lower score from a higher one.** -/
theorem strictOrderOn_precedes_iff {hits : List Hit}
    (hdistinct : ∀ a ∈ hits, ∀ b ∈ hits, a.index = b.index → a = b) :
    Order.StrictOrderOn precedes hits ↔ Unparted hits := by
  constructor
  · intro h low hlow gap hgap high hhigh hbefore hbehind hnan hlt
    have hlg : low.precedes gap = true := (precedes_iff_of_isNaN (Or.inr hnan)).mpr hbefore
    have hgh : gap.precedes high = true := (precedes_iff_of_isNaN (Or.inl hnan)).mpr hbehind
    have hlh := h.trans low hlow gap hgap high hhigh hlg hgh
    rw [precedes_asymm (precedes_iff.mpr (Or.inl hlt))] at hlh
    cases hlh
  · intro h
    refine ⟨fun a _ => ?_, fun a ha b hb c hc hab hbc => ?_, fun a ha b hb hne => ?_⟩
    · cases hself : a.precedes a with
      | false => rfl
      | true => exact hself.symm.trans (precedes_asymm hself)
    · exact h.precedes_trans hdistinct ha hb hc hab hbc
    · exact precedes_total fun heq => hne (hdistinct a ha b hb heq)

/-! ### Sorted hits -/

theorem perm_sorted (hits : List Hit) : (sorted hits).Perm hits :=
  Order.perm_stableSort precedes hits

theorem unparted_sorted_iff {hits : List Hit} : Unparted (sorted hits) ↔ Unparted hits :=
  ⟨fun h => h.of_subset fun _ hhit => (perm_sorted hits).mem_iff.mpr hhit,
    fun h => h.of_subset fun _ hhit => (perm_sorted hits).mem_iff.mp hhit⟩

theorem eq_of_index_eq {hits : List Hit} (h : (hits.map Hit.index).Nodup) :
    ∀ a ∈ hits, ∀ b ∈ hits, a.index = b.index → a = b :=
  fun _ ha _ hb heq => List.inj_on_of_nodup_map h ha hb heq

/-- **Sorted hits stand in order throughout exactly when no NaN parts a lower score from a higher
one.** -/
theorem pairwise_sorted_iff {hits : List Hit} (h : (hits.map Hit.index).Nodup) :
    ((sorted hits).Pairwise fun a b => a.precedes b = true) ↔ Unparted hits := by
  rw [← strictOrderOn_precedes_iff (eq_of_index_eq h)]
  exact Order.pairwise_stableSort_iff (List.Nodup.of_map Hit.index h) fun a _ b _ hab =>
    precedes_asymm hab

theorem not_pairwise_before_of_lt {hits : List Hit} {low high : Hit}
    (hsub : [low, high].Sublist hits) (h : low.score < high.score) :
    ¬hits.Pairwise fun a b =>
      a.score.isNaN = false → b.score.isNaN = false → a.Before b := by
  intro hordered
  obtain ⟨hlow, hhigh⟩ := Binary32.isNaN_eq_false_of_lt h
  exact not_before_of_lt h (List.pairwise_pair.mp (hordered.sublist hsub) hlow hhigh)

/-- A NaN keeps the hits around it in their places, whatever their scores are. -/
theorem sorted_of_isNaN {low gap high : Hit} (h : gap.score.isNaN = true)
    (hbefore : low.index < gap.index) (hbehind : gap.index < high.index) :
    sorted [low, gap, high] = [low, gap, high] := by
  have hlow : gap.precedes low = false :=
    precedes_asymm ((precedes_iff_of_isNaN (Or.inr h)).mpr hbefore)
  have hhigh : high.precedes gap = false :=
    precedes_asymm ((precedes_iff_of_isNaN (Or.inl h)).mpr hbehind)
  simp [sorted, Order.stableSort, Order.insertDescending, hlow, hhigh]

example : (sorted [⟨0, 0.5⟩, ⟨1, 0.0 / 0.0⟩, ⟨2, 1.0⟩]).map Hit.index = [0, 1, 2] := by
  decide +kernel

end RecordQuery.Similarity.Hit

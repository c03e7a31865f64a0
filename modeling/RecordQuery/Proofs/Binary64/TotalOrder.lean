import RecordQuery.Proofs.Binary64.Comparison
import RecordQuery.Proofs.Binary64.Parts
import RecordQuery.Proofs.Sorting.Stability
import RecordQuery.Transform.Aggregate

/-!
# The total order of bit patterns

The total order of doubles is that of a key, which is read off the bits and leaves no two doubles
tied.  Off NaN the numeric order goes with it: only the two zeros, which are equal as numbers, are
told apart.

* `rank_inj`: a double is determined by its key.
* `rank_of_finite`, `rank_of_infinite`: the key of a double by its parts.
* `rank_lt_of_lt`, `le_of_rank_le`: the numeric order and the order of keys.
* `pairwise_sorted`, `sorted_eq_of_perm`: a list has one order by keys, however it stood before.
-/

namespace RecordQuery.Binary64

open Float.Model (UnpackedFloat)

/-! ### Keys -/

theorem rank_inj {x y : Float} : rank x = rank y ↔ x = y := by
  refine ⟨fun h => ?_, fun h => h ▸ rfl⟩
  have hsign : signBit = 2 ^ 63 := rfl
  rw [rank, rank] at h
  refine Float.toBits_inj.mp (UInt64.toNat_inj.mp ?_)
  split at h <;> split at h <;> omega

theorem rank_eq (x : Float) : ∃ negative : Bool, ∃ biased fraction : Nat,
    biased < 2048 ∧ fraction < leadingBit ∧
    rank x = (if negative then -((biased * leadingBit + fraction : Nat) : Int) - 1
      else (biased * leadingBit + fraction : Nat)) ∧
    parts x = (if biased = 2047 then if fraction = 0 then .infinite negative else .nan
      else if biased = 0 then .finite negative fraction (-1074)
      else .finite negative (fraction + leadingBit) ((biased : Int) - 1075)) := by
  have hbits := x.toBits.toNat_lt
  have hsign : signBit = 9223372036854775808 := rfl
  have hlead : leadingBit = 4503599627370496 := rfl
  refine ⟨decide (signBit ≤ x.toBits.toNat), (x.toBits.toNat >>> 52) % 2048,
    x.toBits.toNat % leadingBit, Nat.mod_lt _ (by decide), Nat.mod_lt _ (by decide), ?_, rfl⟩
  rw [rank, Nat.shiftRight_eq_div_pow, hsign, hlead]
  simp only [decide_eq_true_eq]
  split <;> omega

variable {x y : Float} {negative : Bool} {m : Nat} {e : Int}

theorem rank_of_finite (h : parts x = .finite negative m e) :
    (rank x = if negative then -((e + 1074) * leadingBit + m) - 1
      else (e + 1074) * leadingBit + m) ∧
    (e = -1074 ∨ -1074 < e ∧ leadingBit ≤ m) ∧ m < 2 * leadingBit ∧ e < 972 := by
  obtain ⟨sign, biased, fraction, hbiased, hfraction, hrank, hparts⟩ := rank_eq x
  have hlead : leadingBit = 4503599627370496 := rfl
  rw [h, hlead] at hparts
  rw [hrank]
  rw [hlead] at hfraction ⊢
  split at hparts
  · split at hparts <;> cases hparts
  · split at hparts
    · cases hparts
      refine ⟨?_, .inl rfl, by omega, by omega⟩
      split <;> omega
    · cases hparts
      refine ⟨?_, by omega, by omega, by omega⟩
      split <;> omega

theorem rank_of_infinite (h : parts x = .infinite negative) :
    rank x = if negative then -(2047 * leadingBit : Int) - 1 else 2047 * leadingBit := by
  obtain ⟨sign, biased, fraction, -, -, hrank, hparts⟩ := rank_eq x
  rw [h] at hparts
  split at hparts
  · next hbiased =>
    split at hparts
    · next hfraction =>
      cases hparts
      rw [hrank, hbiased, hfraction]
      rfl
    · cases hparts
  · split at hparts <;> cases hparts

/-! ### Keys and numbers -/

theorem rank_of_place (hx : x.isNaN = false) : ∃ side a b : Int,
    place x.toModel.unpack = (side, a, b) ∧
    (side = 2 ∧ a = 0 ∧ b = 0 ∧ rank x = 2047 * leadingBit ∨
      side = 1 ∧ rank x = (a + 1074) * leadingBit + b ∧ (a = -1074 ∨ -1074 < a ∧ leadingBit ≤ b) ∧
        0 < b ∧ b < 2 * leadingBit ∧ a < 972 ∨
      side = 0 ∧ a = 0 ∧ b = 0 ∧ (rank x = 0 ∨ rank x = -1) ∨
      side = -1 ∧ rank x = -((-a + 1074) * leadingBit + -b) - 1 ∧
        (-a = -1074 ∨ -1074 < -a ∧ leadingBit ≤ -b) ∧ 0 < -b ∧ -b < 2 * leadingBit ∧ -a < 972 ∨
      side = -2 ∧ a = 0 ∧ b = 0 ∧ rank x = -(2047 * leadingBit : Int) - 1) := by
  have hparts := parts_eq_partsOf x
  cases hu : x.toModel.unpack with
  | notANumber => rw [(isNaN_eq_true_iff x).mpr hu] at hx; cases hx
  | infinity s =>
    rw [hu] at hparts
    have hrank := rank_of_infinite hparts
    cases s with
    | negative => exact ⟨-2, 0, 0, rfl, by simp [hrank, isMinus]⟩
    | positive => exact ⟨2, 0, 0, rfl, by simp [hrank, isMinus]⟩
  | zero s =>
    rw [hu] at hparts
    obtain ⟨hrank, -⟩ := rank_of_finite hparts
    refine ⟨0, 0, 0, rfl, .inr (.inr (.inl ⟨rfl, rfl, rfl, ?_⟩))⟩
    cases s with
    | negative => exact .inr (by simp [hrank, isMinus])
    | positive => exact .inl (by simp [hrank, isMinus])
  | finite s m e hm =>
    rw [hu] at hparts
    obtain ⟨hrank, hlow, hhigh, he⟩ := rank_of_finite hparts
    cases s with
    | negative =>
      refine ⟨-1, -e, -m, rfl,
        .inr (.inr (.inr (.inl ⟨rfl, ?_, by omega, by omega, by omega, by omega⟩)))⟩
      simp [hrank, isMinus]
    | positive =>
      refine ⟨1, e, m, rfl, .inr (.inl ⟨rfl, ?_, by omega, by omega, by omega, by omega⟩)⟩
      simp [hrank, isMinus]

theorem comparePlaces_eq_lt {p q : Int × Int × Int} (h : comparePlaces p q = .lt) :
    p.1 < q.1 ∨ p.1 = q.1 ∧ (p.2.1 < q.2.1 ∨ p.2.1 = q.2.1 ∧ p.2.2 < q.2.2) := by
  rwa [comparePlaces, Ordering.then_eq_lt, Ordering.then_eq_lt, Int.compare_eq_lt,
    Int.compare_eq_lt, Int.compare_eq_lt, Int.compare_eq_eq, Int.compare_eq_eq] at h

theorem rank_lt_of_lt (hx : x.isNaN = false) (hy : y.isNaN = false) (h : x < y) :
    rank x < rank y := by
  have hlead : leadingBit = 4503599627370496 := rfl
  obtain ⟨side, a, b, hxp, hxr⟩ := rank_of_place hx
  obtain ⟨side', a', b', hyp, hyr⟩ := rank_of_place hy
  rw [lt_iff_comparePlaces hx hy, hxp, hyp] at h
  have hlt := comparePlaces_eq_lt h
  rw [hlead] at hxr hyr
  dsimp only at hlt
  omega

theorem le_of_rank_le (hx : x.isNaN = false) (hy : y.isNaN = false) (h : rank x ≤ rank y) :
    x ≤ y :=
  (le_iff_not_lt hx hy).mpr fun hlt => not_lt.mpr h (rank_lt_of_lt hy hx hlt)

/-! ### Lists in order -/

theorem sorted_eq_sortBy (xs : List Float) :
    sorted xs = Order.sortBy (fun x y => compare (rank x) (rank y)) xs := by
  have hless : (fun x y : Float => decide (rank x < rank y)) =
      fun x y => compare (rank x) (rank y) == .lt := by
    funext x y
    rw [Bool.eq_iff_iff, decide_eq_true_iff, beq_iff_eq, Int.compare_eq_lt]
  rw [sorted, Order.sortBy, hless]

theorem perm_sorted (xs : List Float) : (sorted xs).Perm xs := Order.perm_stableSort _ xs

theorem sorted_eq_nil_iff {xs : List Float} : sorted xs = [] ↔ xs = [] := by
  rw [← List.length_eq_zero_iff, ← List.length_eq_zero_iff, (perm_sorted xs).length_eq]

theorem pairwise_sorted (xs : List Float) : (sorted xs).Pairwise fun x y => rank x ≤ rank y := by
  have : Std.TransCmp fun x y : Float => compare (rank x) (rank y) := Order.transCmp_on rank
  rw [sorted_eq_sortBy]
  refine (Order.stableSortOf_sortBy xs).ordered.imp fun {x y} h => ?_
  rwa [ne_eq, Int.compare_eq_gt, not_lt] at h

/-- **A list has one order by keys**, however its elements stood before. -/
theorem sorted_eq_of_perm {xs ys : List Float} (h : xs.Perm ys) : sorted xs = sorted ys :=
  List.Perm.eq_of_pairwise (fun _ _ _ _ hxy hyx => rank_inj.mp (le_antisymm hxy hyx))
    (pairwise_sorted xs) (pairwise_sorted ys)
    (((perm_sorted xs).trans h).trans (perm_sorted ys).symm)

end RecordQuery.Binary64

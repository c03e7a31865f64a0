import RecordQuery.Proofs.Binary64.Comparison

/-!
# The order of single-precision numbers

Numbers of single precision unpack to the same forms as doubles, so they stand on the same line.
Off NaN they are compared by their places there; with a NaN on either side no comparison holds.

* `Binary32.order`: the order of places.
* `lt_iff_order`, `le_iff_order`, `beq_iff_order`: off NaN, the comparisons are those of places.
* `isNaN_eq_false_of_lt`, `isNaN_eq_false_of_le`, `not_lt_of_isNaN`: numbers that compare are not
  NaN.
* `lt_asymm`: `<` is asymmetric for all numbers.
* `isNaN_zero_mul_iff`: the multiples of zero that are NaN.
-/

namespace RecordQuery.Binary32

open Float.Model (UnpackedFloat)
open Std (TransCmp)

variable {x y : Float32}

theorem isNaN_eq_true_iff (x : Float32) : x.isNaN = true ↔ x.toModel.unpack = .notANumber := by
  show x.toModel.unpack.isNaN = true ↔ _
  cases x.toModel.unpack with
  | notANumber => exact ⟨fun _ => rfl, fun _ => rfl⟩
  | _ => exact ⟨fun h => (by cases h), fun h => (by cases h)⟩

theorem isNaN_eq_false_iff (x : Float32) : x.isNaN = false ↔ x.toModel.unpack ≠ .notANumber := by
  rw [← Bool.not_eq_true, isNaN_eq_true_iff]

theorem lt_iff (x y : Float32) :
    x < y ↔ x.toModel.unpack.compare y.toModel.unpack = some .lt := by
  show Float32.lt x y = true ↔ _
  rw [Float32.lt, decide_eq_true_iff]
  show (x.toModel.unpack.compare y.toModel.unpack == some .lt) = true ↔ _
  exact beq_iff_eq

theorem le_iff (x y : Float32) :
    x ≤ y ↔ (x.toModel.unpack.compare y.toModel.unpack).any (·.isLE) = true := by
  show Float32.le x y = true ↔ _
  rw [Float32.le, decide_eq_true_iff]
  rfl

theorem beq_iff (x y : Float32) :
    (x == y) = true ↔ x.toModel.unpack.compare y.toModel.unpack = some .eq := by
  show (x.toModel.unpack.compare y.toModel.unpack == some .eq) = true ↔ _
  exact beq_iff_eq

/-! ### NaN -/

theorem ne_notANumber_of_compare {u v : UnpackedFloat} {o : Ordering} (h : u.compare v = some o) :
    u ≠ .notANumber ∧ v ≠ .notANumber := by
  refine ⟨?_, ?_⟩
  · rintro rfl
    cases h
  · rintro rfl
    cases u <;> cases h

theorem isNaN_eq_false_of_lt (h : x < y) : x.isNaN = false ∧ y.isNaN = false := by
  rw [isNaN_eq_false_iff, isNaN_eq_false_iff]
  exact ne_notANumber_of_compare ((lt_iff x y).mp h)

theorem not_lt_of_isNaN (h : x.isNaN = true ∨ y.isNaN = true) : ¬x < y := by
  intro hlt
  obtain ⟨hx, hy⟩ := isNaN_eq_false_of_lt hlt
  rcases h with h | h
  · rw [hx] at h
    cases h
  · rw [hy] at h
    cases h

theorem isNaN_eq_false_of_le (h : x ≤ y) : x.isNaN = false ∧ y.isNaN = false := by
  rw [isNaN_eq_false_iff, isNaN_eq_false_iff]
  rw [le_iff, Option.any_eq_true] at h
  obtain ⟨o, ho, -⟩ := h
  exact ne_notANumber_of_compare ho

/-! ### Multiples of zero -/

theorem unpack_pack_zero (s : UnpackedFloat.Sign) :
    (Float32.Model.pack (.zero s)).unpack = .zero s := by
  cases s with
  | positive => rfl
  | negative => rfl

theorem unpack_pack_notANumber : (Float32.Model.pack .notANumber).unpack = .notANumber := rfl

/-- Zero times a number is NaN unless the number is finite. -/
theorem isNaN_zero_mul_iff (y : Float32) : (0.0 * y).isNaN = true ↔ y.isFinite = false := by
  have hzero : (0.0 : Float32).toModel.unpack = .zero .positive := rfl
  have hnumber : ∀ s, (Float32.Model.pack (.zero s)).unpack ≠ .notANumber := fun s h => by
    rw [unpack_pack_zero] at h
    cases h
  rw [isNaN_eq_true_iff]
  show (Float32.Model.pack (.mul Float.Model.Format.binary32 (0.0 : Float32).toModel.unpack
    y.toModel.unpack)).unpack = .notANumber ↔ y.toModel.unpack.isFinite = false
  rw [hzero]
  cases y.toModel.unpack with
  | notANumber => exact iff_of_true unpack_pack_notANumber rfl
  | infinity s => exact iff_of_true unpack_pack_notANumber rfl
  | zero s => exact iff_of_false (hnumber _) Bool.noConfusion
  | finite s m e hm => exact iff_of_false (hnumber _) Bool.noConfusion

/-! ### The order of places -/

/-- The order of the places of two numbers; all NaN stand at one place behind the line. -/
def order (x y : Float32) : Ordering :=
  Binary64.comparePlaces (Binary64.place x.toModel.unpack) (Binary64.place y.toModel.unpack)

instance : TransCmp order := Order.transCmp_on fun x : Float32 => Binary64.place x.toModel.unpack

theorem order_swap (x y : Float32) : order y x = (order x y).swap := Std.OrientedCmp.eq_swap

theorem compare_eq_order (hx : x.isNaN = false) (hy : y.isNaN = false) :
    x.toModel.unpack.compare y.toModel.unpack = some (order x y) :=
  Binary64.compare_eq_comparePlaces ((isNaN_eq_false_iff x).mp hx) ((isNaN_eq_false_iff y).mp hy)

theorem lt_iff_order (hx : x.isNaN = false) (hy : y.isNaN = false) : x < y ↔ order x y = .lt := by
  rw [lt_iff, compare_eq_order hx hy, Option.some.injEq]

theorem le_iff_order (hx : x.isNaN = false) (hy : y.isNaN = false) :
    x ≤ y ↔ (order x y).isLE = true := by
  rw [le_iff, compare_eq_order hx hy, Option.any_some]

theorem beq_iff_order (hx : x.isNaN = false) (hy : y.isNaN = false) :
    (x == y) = true ↔ order x y = .eq := by
  rw [beq_iff, compare_eq_order hx hy, Option.some.injEq]

theorem lt_asymm (h : x < y) : ¬y < x := by
  obtain ⟨hx, hy⟩ := isNaN_eq_false_of_lt h
  rw [lt_iff_order hx hy] at h
  rw [lt_iff_order hy hx, order_swap x y, h]
  exact Ordering.noConfusion

theorem le_iff_not_lt (hx : x.isNaN = false) (hy : y.isNaN = false) : x ≤ y ↔ ¬y < x := by
  rw [le_iff_order hx hy, lt_iff_order hy hx, order_swap x y]
  cases order x y <;> simp

end RecordQuery.Binary32

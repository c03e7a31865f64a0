import RecordQuery.Proofs.Binary64.Equality
import RecordQuery.Proofs.Order
import RecordQuery.Value.Order

/-!
# The order of doubles

Doubles stand on a line: infinities at the ends, finite numbers by sign, exponent and mantissa, and
both zeros in one place.  `Binary64.totalOrder` puts all NaN at one more place behind the line.

* `place`, `comparePlaces`: the place of an unpacked double, and the order of places.
* `compare_eq_comparePlaces`: off NaN, the comparison of doubles is that of their places.
* `totalOrder_eq_comparePlaces`: so is the total order, for all doubles.
* `place_eq_of_beq`, `totalOrder_eq_eq_of_beq`: equal doubles stand in one place.
* `lt_iff_comparePlaces`, `le_iff_comparePlaces`, `le_iff_not_lt`: off NaN, `<` and `≤` are those of
  places.
-/

namespace RecordQuery.Binary64

open Float.Model (UnpackedFloat)
open Std (TransCmp)

/-- The place of an unpacked double: its side, and on a side exponent and mantissa, both turned
around for negative numbers. -/
def place : UnpackedFloat → Int × Int × Int
  | .infinity .negative => (-2, 0, 0)
  | .finite .negative mantissa exponent _ => (-1, -exponent, -mantissa)
  | .zero _ => (0, 0, 0)
  | .finite .positive mantissa exponent _ => (1, exponent, mantissa)
  | .infinity .positive => (2, 0, 0)
  | .notANumber => (3, 0, 0)

/-- The order of places, by the first parts that differ. -/
def comparePlaces (p q : Int × Int × Int) : Ordering :=
  (compare p.1 q.1).then ((compare p.2.1 q.2.1).then (compare p.2.2 q.2.2))

instance : TransCmp comparePlaces :=
  have (part : Int × Int × Int → Int) : TransCmp fun p q => compare (part p) (part q) :=
    Order.transCmp_on part
  have : TransCmp fun p q : Int × Int × Int =>
      (compare p.2.1 q.2.1).then (compare p.2.2 q.2.2) := Order.transCmp_then
  Order.transCmp_then

theorem compare_neg_neg (m n : Int) : compare (-m) (-n) = (compare m n).swap := by
  rw [Int.compare_swap]
  simp only [Int.compare_eq_ite_lt, Int.neg_lt_neg_iff]

theorem compare_natCast (m n : Nat) : compare (m : Int) n = compare m n := by
  simp only [Int.compare_eq_ite_lt, Nat.compare_eq_ite_lt, Int.ofNat_lt]

/-- Off NaN, doubles are compared by their places. -/
theorem compare_eq_comparePlaces {x y : UnpackedFloat} (hx : x ≠ .notANumber)
    (hy : y ≠ .notANumber) : x.compare y = some (comparePlaces (place x) (place y)) := by
  cases x with
  | notANumber => exact absurd rfl hx
  | infinity s =>
    cases y with
    | notANumber => exact absurd rfl hy
    | finite t => cases s <;> cases t <;> rfl
    | infinity t => cases s <;> cases t <;> rfl
    | zero => cases s <;> rfl
  | zero =>
    cases y with
    | notANumber => exact absurd rfl hy
    | finite t => cases t <;> rfl
    | infinity t => cases t <;> rfl
    | zero => rfl
  | finite s m d hm =>
    cases y with
    | notANumber => exact absurd rfl hy
    | infinity t => cases s <;> cases t <;> rfl
    | zero => cases s <;> rfl
    | finite t n e hn =>
      cases s <;> cases t
      · show some ((compare d e).then (compare m n)).swap =
          some ((compare (-1) (-1)).then ((compare (-d) (-e)).then (compare (-(m : Int)) (-n))))
        rw [compare_neg_neg d, compare_neg_neg m, compare_natCast, Ordering.swap_then]
        rfl
      · rfl
      · rfl
      · show some ((compare d e).then (compare m n)) =
          some ((compare 1 1).then ((compare d e).then (compare (m : Int) n)))
        rw [compare_natCast]
        rfl

theorem lt_iff (x y : Float) : x < y ↔ x.toModel.unpack.compare y.toModel.unpack = some .lt := by
  show Float.lt x y = true ↔ _
  rw [Float.lt, decide_eq_true_iff]
  show (x.toModel.unpack.compare y.toModel.unpack == some .lt) = true ↔ _
  exact beq_iff_eq

theorem le_iff (x y : Float) :
    x ≤ y ↔ (x.toModel.unpack.compare y.toModel.unpack).any (·.isLE) = true := by
  show Float.le x y = true ↔ _
  rw [Float.le, decide_eq_true_iff]
  rfl

theorem comparePlaces_notANumber {x : UnpackedFloat} (hx : x ≠ .notANumber) :
    comparePlaces (place x) (place .notANumber) = .lt := by
  cases x with
  | notANumber => exact absurd rfl hx
  | finite s => cases s <;> rfl
  | infinity s => cases s <;> rfl
  | zero => rfl

/-- **The total order of doubles is that of their places.** -/
theorem totalOrder_eq_comparePlaces (x y : Float) :
    totalOrder x y = comparePlaces (place x.toModel.unpack) (place y.toModel.unpack) := by
  have hswap : comparePlaces (place x.toModel.unpack) (place y.toModel.unpack) =
      (comparePlaces (place y.toModel.unpack) (place x.toModel.unpack)).swap :=
    Std.OrientedCmp.eq_swap
  unfold totalOrder
  cases hx : x.isNaN <;> cases hy : y.isNaN
  all_goals simp only [Bool.false_eq_true, if_true, if_false]
  · rw [← Bool.not_eq_true, isNaN_eq_true_iff] at hx hy
    simp only [Order.ofLess, decide_eq_true_eq, lt_iff, compare_eq_comparePlaces hx hy,
      compare_eq_comparePlaces hy hx, Option.some.injEq]
    rw [hswap]
    cases comparePlaces (place y.toModel.unpack) (place x.toModel.unpack) <;> rfl
  · rw [← Bool.not_eq_true, isNaN_eq_true_iff] at hx
    rw [isNaN_eq_true_iff] at hy
    rw [hy, comparePlaces_notANumber hx]
  · rw [← Bool.not_eq_true, isNaN_eq_true_iff] at hy
    rw [isNaN_eq_true_iff] at hx
    rw [hswap, hx, comparePlaces_notANumber hy]
    rfl
  · rw [isNaN_eq_true_iff] at hx hy
    rw [hx, hy]
    rfl

instance : TransCmp totalOrder := by
  have h : totalOrder = fun x y : Float =>
      comparePlaces (place x.toModel.unpack) (place y.toModel.unpack) := by
    funext x y
    exact totalOrder_eq_comparePlaces x y
  rw [h]
  exact Order.transCmp_on fun x : Float => place x.toModel.unpack

theorem place_eq_of_beq {x y : Float} (h : (x == y) = true) :
    place x.toModel.unpack = place y.toModel.unpack := by
  rcases ((beq_eq_true_iff x y).mp h).2 with he | ⟨hx, hy⟩
  · rw [he]
  · cases hux : x.toModel.unpack with
    | zero =>
      cases huy : y.toModel.unpack with
      | zero => rfl
      | _ => rw [huy] at hy; exact hy.elim
    | _ => rw [hux] at hx; exact hx.elim

theorem totalOrder_eq_eq_of_beq {x y : Float} (h : (x == y) = true) : totalOrder x y = .eq := by
  rw [totalOrder_eq_comparePlaces, place_eq_of_beq h]
  exact Std.ReflCmp.compare_self

/-! ### Off NaN -/

section

variable {x y : Float} (hx : x.isNaN = false) (hy : y.isNaN = false)
include hx hy

theorem lt_iff_comparePlaces :
    x < y ↔ comparePlaces (place x.toModel.unpack) (place y.toModel.unpack) = .lt := by
  rw [← Bool.not_eq_true, isNaN_eq_true_iff] at hx hy
  rw [lt_iff, compare_eq_comparePlaces hx hy, Option.some.injEq]

theorem le_iff_comparePlaces :
    x ≤ y ↔ comparePlaces (place x.toModel.unpack) (place y.toModel.unpack) ≠ .gt := by
  rw [← Bool.not_eq_true, isNaN_eq_true_iff] at hx hy
  rw [le_iff, compare_eq_comparePlaces hx hy]
  exact Ordering.ne_gt_iff_isLE.symm

theorem le_iff_not_lt : x ≤ y ↔ ¬ y < x := by
  rw [le_iff_comparePlaces hx hy, lt_iff_comparePlaces hy hx, ne_eq, Std.OrientedCmp.gt_iff_lt]

theorem le_of_beq (h : (x == y) = true) : x ≤ y := by
  have hself : comparePlaces (place y.toModel.unpack) (place y.toModel.unpack) = .eq :=
    Std.ReflCmp.compare_self
  rw [le_iff_comparePlaces hx hy, place_eq_of_beq h, hself]
  exact Ordering.noConfusion

theorem le_congr_of_beq {z : Float} (hz : z.isNaN = false) (h : (x == y) = true) :
    z ≤ x ↔ z ≤ y := by
  rw [le_iff_comparePlaces hz hx, le_iff_comparePlaces hz hy, place_eq_of_beq h]

end

end RecordQuery.Binary64

import RecordQuery.Proofs.Value.Ordering
import RecordQuery.Sorting

/-!
# The order of records is a total preorder

A criterion orders records by the values that they hold at the end of its path.  Missing values are
set apart before the values are compared, so that the direction does not reach them; and several
criteria are taken one after the other, the later ones for the ties of those before.

* `SortCriterion.compareKeys_eq`: the order of two keys, missing ones first set apart.
* `SortCriterion.compare_eq_gt_of_missing`: records without a value come last in either direction.
* `compareBy_cons`: the first criterion, and the others for its ties.
* `compareBy_eq_eq_of_beq`: equal records are tied under all criteria.
* `totalPreorder_compareBy`: values, criteria and lists of criteria order totally.
-/

namespace RecordQuery

open Std (TransCmp)

theorem Value.isUndefined_eq_true_iff {v : Value} : v.isUndefined = true ↔ v = .undefined := by
  cases v <;> simp [isUndefined]

namespace Direction

variable {α : Type} {order : α → α → Ordering} [TransCmp order]

theorem apply_descending :
    (fun x y => descending.apply (order x y)) = fun x y => order y x := by
  funext x y
  rw [apply, Order.reverse_eq_swap]
  exact Std.OrientedCmp.eq_swap.symm

theorem transCmp_apply (direction : Direction) :
    TransCmp fun x y => direction.apply (order x y) := by
  cases direction with
  | ascending => exact inferInstanceAs (TransCmp order)
  | descending =>
    rw [apply_descending]
    exact Std.TransCmp.opposite

end Direction

namespace SortCriterion

/-- The order of two keys: missing ones are set apart, the others compared in the direction. -/
theorem compareKeys_eq (direction : Direction) (a b : Value) :
    compareKeys direction a b =
      (Order.bool a.isUndefined b.isUndefined).then (direction.apply (a.compare b)) := by
  unfold compareKeys
  cases ha : a.isUndefined <;> cases hb : b.isUndefined
  · rfl
  · rfl
  · rfl
  · rw [Value.isUndefined_eq_true_iff] at ha hb
    subst ha hb
    cases direction <;> rfl

instance (direction : Direction) : TransCmp (compareKeys direction) := by
  have hmissing : TransCmp fun a b : Value => Order.bool a.isUndefined b.isUndefined :=
    Order.transCmp_on Value.isUndefined
  have hpresent : TransCmp fun a b : Value => direction.apply (a.compare b) :=
    direction.transCmp_apply
  have h : compareKeys direction = _ :=
    funext fun a => funext fun b => compareKeys_eq direction a b
  rw [h]
  exact Order.transCmp_then

instance (criterion : SortCriterion) : TransCmp criterion.compare :=
  Order.transCmp_on criterion.key

/-- A record without a value comes after those with one, in either direction. -/
theorem compare_eq_gt_of_missing {criterion : SortCriterion} {a b : Value}
    (ha : (criterion.key a).isUndefined = true) (hb : (criterion.key b).isUndefined = false) :
    criterion.compare a b = .gt := by
  rw [compare, compareKeys_eq, ha, hb]
  rfl

theorem key_beq {a b : Value} (ha : a.WellFormed) (hb : b.WellFormed) (h : (a == b) = true)
    (criterion : SortCriterion) : (criterion.key a == criterion.key b) = true := by
  have hpath := ((Value.beq_iff_similar ha hb).mp h).follow? (Path.segments criterion.path)
  unfold key Value.getPath?
  cases hva : Value.follow? (Path.segments criterion.path) a with
  | none =>
    rw [(Value.rel_eq_none_iff hpath).mp hva]
    rfl
  | some x =>
    rw [hva] at hpath
    cases hvb : Value.follow? (Path.segments criterion.path) b with
    | none => rw [hvb] at hpath; cases hpath
    | some y =>
      rw [hvb] at hpath
      cases hpath with
      | some hxy =>
        exact (Value.beq_iff_similar (ha.of_occurs (Value.occurs_of_follow? hva))
          (hb.of_occurs (Value.occurs_of_follow? hvb))).mpr hxy

theorem compareKeys_eq_eq_of_beq {a b : Value} (h : (a == b) = true) (direction : Direction) :
    compareKeys direction a b = .eq := by
  have htied := Value.compare_eq_eq_of_beq h
  have hmissing : a.isUndefined = b.isUndefined := by
    cases a <;> cases b <;> first | rfl | cases h
  have hself : Order.bool b.isUndefined b.isUndefined = .eq := Std.ReflCmp.compare_self
  rw [compareKeys_eq, hmissing, htied, hself]
  cases direction <;> rfl

theorem compare_eq_eq_of_beq {a b : Value} (ha : a.WellFormed) (hb : b.WellFormed)
    (h : (a == b) = true) (criterion : SortCriterion) : criterion.compare a b = .eq :=
  compareKeys_eq_eq_of_beq (key_beq ha hb h criterion) criterion.direction

end SortCriterion

/-! ### Several criteria -/

theorem compareBy_cons (criterion : SortCriterion) (criteria : List SortCriterion) (a b : Value) :
    compareBy (criterion :: criteria) a b =
      (criterion.compare a b).then (compareBy criteria a b) := Order.match_eq_then _ _

instance transCmp_compareBy (criteria : List SortCriterion) : TransCmp (compareBy criteria) := by
  induction criteria with
  | nil => exact { eq_swap := rfl, isLE_trans := fun _ _ => rfl }
  | cons criterion criteria ih =>
    have h : compareBy (criterion :: criteria) = _ :=
      funext fun a => funext fun b => compareBy_cons criterion criteria a b
    rw [h]
    exact Order.transCmp_then

theorem compareBy_eq_eq_of_beq {a b : Value} (ha : a.WellFormed) (hb : b.WellFormed)
    (h : (a == b) = true) (criteria : List SortCriterion) : compareBy criteria a b = .eq := by
  induction criteria with
  | nil => rfl
  | cons criterion criteria ih =>
    rw [compareBy_cons, SortCriterion.compare_eq_eq_of_beq ha hb h, ih]
    rfl

/-- **Values, criteria and lists of criteria order totally.**  Each of the three comparisons is a
total preorder that ties equal values, and a criterion leaves records without a value at the end,
whatever its direction. -/
theorem totalPreorder_compareBy :
    (Order.TotalPreorder Value.compare ∧
      ∀ v w : Value, (v == w) = true → v.compare w = .eq) ∧
    (∀ criterion : SortCriterion, Order.TotalPreorder criterion.compare ∧
      (∀ a b : Value, a.WellFormed → b.WellFormed → (a == b) = true →
        criterion.compare a b = .eq) ∧
      ∀ a b : Value, (criterion.key a).isUndefined = true →
        (criterion.key b).isUndefined = false → criterion.compare a b = .gt) ∧
    (∀ criteria : List SortCriterion, Order.TotalPreorder (compareBy criteria) ∧
      ∀ a b : Value, a.WellFormed → b.WellFormed → (a == b) = true →
        compareBy criteria a b = .eq) :=
  ⟨⟨Order.totalPreorder_of_transCmp, fun _ _ => Value.compare_eq_eq_of_beq⟩,
    fun criterion => ⟨Order.totalPreorder_of_transCmp,
      fun _ _ ha hb h => criterion.compare_eq_eq_of_beq ha hb h,
      fun _ _ => SortCriterion.compare_eq_gt_of_missing⟩,
    fun criteria => ⟨Order.totalPreorder_of_transCmp,
      fun _ _ ha hb h => compareBy_eq_eq_of_beq ha hb h criteria⟩⟩

/-- Zeros of both signs are tied at every depth, and a record without the key is last although the
direction is descending. -/
theorem totalPreorder_compareBy_zeros :
    let zero : Value := .record [("k", .array [.number 0.0, .null])]
    let negative : Value := .record [("k", .array [.number (-0.0), .null])]
    let criterion : SortCriterion := ⟨"k", .descending⟩
    (Value.array [.number 0.0] == .array [.number (-0.0)]) = true ∧
      Value.compare (.array [.number 0.0]) (.array [.number (-0.0)]) = .eq ∧
      zero.WellFormed ∧ negative.WellFormed ∧ (zero == negative) = true ∧
      compareBy [criterion] zero negative = .eq ∧
      (criterion.key (.record [])).isUndefined = true ∧
      (criterion.key zero).isUndefined = false ∧ criterion.compare (.record []) zero = .gt := by
  intro zero negative criterion
  have hitems : (Value.array [.number 0.0] == .array [.number (-0.0)]) = true := by rfl
  have hzero : zero.WellFormed := by simp [zero]
  have hnegative : negative.WellFormed := by simp [negative]
  have hequal : (zero == negative) = true := by rfl
  have hsegments : Path.segments "k" = ["k"] := by decide +kernel
  have habsent : (criterion.key (.record [])).isUndefined = true := by
    rw [SortCriterion.key, Value.getPath?, hsegments]
    rfl
  have hpresent : (criterion.key zero).isUndefined = false := by
    rw [SortCriterion.key, Value.getPath?, hsegments]
    rfl
  obtain ⟨hvalues, hcriterion, hcriteria⟩ := totalPreorder_compareBy
  exact ⟨hitems, hvalues.2 _ _ hitems, hzero, hnegative, hequal,
    (hcriteria [criterion]).2 _ _ hzero hnegative hequal, habsent, hpresent,
    (hcriterion criterion).2.2 _ _ habsent hpresent⟩

end RecordQuery

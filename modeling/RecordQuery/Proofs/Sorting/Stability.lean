import Mathlib.Data.List.Forall2
import RecordQuery.Proofs.Sorting.Criteria

/-!
# Stable sorting by several criteria

A stable sort of a list puts it in order and leaves elements that are tied as they stood to each
other.  There is only one such list, so that two ways to sort are the same as soon as both are
stable; sorting by one criterion after the other, the last one first, is stable for all of them.

* `Order.StableSortOf`: a permutation in order, with the elements of each tie as they stood.
* `Order.stableSortOf_sortBy`: insertion sort is a stable sort.
* `Order.StableSortOf.unique`: a list has one stable sort.
* `Order.StableSortOf.followed`: a stable sort of a stable sort.
* `sortBy_eq_foldr`: sorting by one criterion after the other.
* `sortBy_and_sortRecords`: the sort by criteria, and that by criteria in any spelling.
-/

namespace RecordQuery

open Std (TransCmp)

namespace Order

variable {α : Type} {order : α → α → Ordering}

def tied (order : α → α → Ordering) (x y : α) : Bool := order x y == .eq

theorem tied_iff {x y : α} : tied order x y = true ↔ order x y = .eq := beq_iff_eq

theorem tied_self [TransCmp order] (x : α) : tied order x x = true :=
  tied_iff.mpr Std.ReflCmp.compare_self

theorem tied_then (first second : α → α → Ordering) (x y : α) :
    tied (fun x y => (first x y).then (second x y)) x y = (tied first x y && tied second x y) := by
  unfold tied
  dsimp only
  cases first x y <;> rfl

/-- The elements in order, those of each tie as they stood to each other. -/
structure StableSortOf (order : α → α → Ordering) (xs sorted : List α) : Prop where
  perm : sorted.Perm xs
  ordered : sorted.Pairwise fun x y => order x y ≠ .gt
  stable : ∀ x, sorted.filter (tied order x) = xs.filter (tied order x)

/-! ### Insertion sort -/

theorem perm_insertDescending (less : α → α → Bool) (x : α) (ys : List α) :
    (insertDescending less x ys).Perm (x :: ys) := by
  induction ys with
  | nil => exact List.Perm.refl _
  | cons y ys ih =>
    rw [insertDescending]
    split
    · exact (ih.cons y).trans (.swap ..)
    · exact List.Perm.refl _

theorem pairwise_insertDescending [TransCmp order] (x : α) {ys : List α}
    (h : ys.Pairwise fun y z => order z y ≠ .gt) :
    (insertDescending (fun y z => order y z == .lt) x ys).Pairwise
      fun y z => order z y ≠ .gt := by
  induction ys with
  | nil => exact List.pairwise_singleton _ _
  | cons y ys ih =>
    obtain ⟨hy, hys⟩ := List.pairwise_cons.mp h
    rw [insertDescending]
    split
    · next hlt =>
      rw [beq_iff_eq] at hlt
      refine List.pairwise_cons.mpr ⟨fun z hz => ?_, ih hys⟩
      rcases List.mem_cons.mp ((perm_insertDescending _ x ys).mem_iff.mp hz) with rfl | hz
      · rw [hlt]
        exact Ordering.noConfusion
      · exact hy z hz
    · next hnot =>
      -- nothing behind `y` is above it, and `y` is not above `x`
      have hyx : order y x ≠ .gt := fun hgt => hnot (beq_iff_eq.mpr (Std.OrientedCmp.lt_of_gt hgt))
      refine List.pairwise_cons.mpr ⟨fun z hz => ?_, h⟩
      rcases List.mem_cons.mp hz with rfl | hz
      · exact hyx
      · exact totalPreorder_of_transCmp.trans z y x (hy z hz) hyx

/-- An element is inserted before all elements that are tied with it. -/
theorem filter_insertDescending [TransCmp order] (z x : α) (ys : List α) :
    (insertDescending (fun y z => order y z == .lt) x ys).filter (tied order z) =
      (x :: ys).filter (tied order z) := by
  induction ys with
  | nil => rfl
  | cons y ys ih =>
    rw [insertDescending]
    split
    · next hlt =>
      rw [beq_iff_eq] at hlt
      rw [List.filter_cons, ih]
      by_cases hx : tied order z x = true
      · -- `y` is above `x`, so it is not tied with what `x` is tied with
        have hy : ¬tied order z y = true := by
          intro hy
          rw [← TransCmp.congr_left (tied_iff.mp hx), tied_iff.mp hy] at hlt
          cases hlt
        rw [if_neg hy, List.filter_cons_of_pos hx, List.filter_cons_of_pos hx,
          List.filter_cons_of_neg hy]
      · rw [List.filter_cons_of_neg hx, List.filter_cons_of_neg hx, List.filter_cons]
    · rfl

theorem perm_foldl_insertDescending (less : α → α → Bool) : ∀ xs sorted : List α,
    (xs.foldl (fun sorted x => insertDescending less x sorted) sorted).Perm
      (xs.reverse ++ sorted) := by
  intro xs
  induction xs with
  | nil => intro sorted; exact List.Perm.refl _
  | cons x xs ih =>
    intro sorted
    rw [List.foldl_cons, List.reverse_cons, List.append_assoc]
    exact (ih _).trans ((perm_insertDescending less x sorted).append_left _)

theorem pairwise_foldl_insertDescending [TransCmp order] : ∀ {xs sorted : List α},
    sorted.Pairwise (fun y z => order z y ≠ .gt) →
      (xs.foldl (fun sorted x => insertDescending (fun y z => order y z == .lt) x sorted)
        sorted).Pairwise fun y z => order z y ≠ .gt := by
  intro xs
  induction xs with
  | nil => intro sorted h; exact h
  | cons x xs ih => intro sorted h; exact ih (pairwise_insertDescending x h)

theorem filter_foldl_insertDescending [TransCmp order] (z : α) : ∀ xs sorted : List α,
    (xs.foldl (fun sorted x => insertDescending (fun y z => order y z == .lt) x sorted)
      sorted).filter (tied order z) = (xs.reverse ++ sorted).filter (tied order z) := by
  intro xs
  induction xs with
  | nil => intro sorted; rfl
  | cons x xs ih =>
    intro sorted
    rw [List.foldl_cons, ih, List.filter_append, filter_insertDescending, ← List.filter_append,
      List.reverse_cons, List.append_assoc]
    rfl

theorem perm_stableSort (less : α → α → Bool) (xs : List α) : (stableSort less xs).Perm xs := by
  have h := perm_foldl_insertDescending less xs []
  rw [List.append_nil] at h
  exact (List.reverse_perm _).trans (h.trans (List.reverse_perm xs))

theorem perm_sortBy (order : α → α → Ordering) (xs : List α) : (Order.sortBy order xs).Perm xs :=
  perm_stableSort _ xs

/-- **Insertion sort is a stable sort.** -/
theorem stableSortOf_sortBy [TransCmp order] (xs : List α) :
    StableSortOf order xs (Order.sortBy order xs) where
  perm := perm_sortBy order xs
  ordered := List.pairwise_reverse.mpr (pairwise_foldl_insertDescending List.Pairwise.nil)
  stable x := by
    rw [Order.sortBy, stableSort, List.filter_reverse, filter_foldl_insertDescending,
      List.append_nil, List.filter_reverse, List.reverse_reverse]

/-! ### One stable sort -/

theorem mem_of_filter_eq [TransCmp order] {xs ys : List α}
    (h : ∀ x, xs.filter (tied order x) = ys.filter (tied order x)) {x : α} (hx : x ∈ xs) :
    x ∈ ys := by
  have hin : x ∈ xs.filter (tied order x) := List.mem_filter.mpr ⟨hx, tied_self x⟩
  rw [h x] at hin
  exact (List.mem_filter.mp hin).1

theorem ne_gt_of_mem [TransCmp order] {x y : α} {xs : List α}
    (h : (x :: xs).Pairwise fun x y => order x y ≠ .gt) (hy : y ∈ x :: xs) : order x y ≠ .gt := by
  rcases List.mem_cons.mp hy with rfl | hy
  · have hself : order y y = .eq := Std.ReflCmp.compare_self
    rw [hself]
    exact Ordering.noConfusion
  · exact List.rel_of_pairwise_cons h hy

theorem eq_of_filter_eq [TransCmp order] : ∀ {ys zs : List α},
    ys.Pairwise (fun x y => order x y ≠ .gt) → zs.Pairwise (fun x y => order x y ≠ .gt) →
      (∀ x, ys.filter (tied order x) = zs.filter (tied order x)) → ys = zs := by
  intro ys
  induction ys with
  | nil =>
    intro zs _ _ h
    cases zs with
    | nil => rfl
    | cons z zs =>
      exact absurd (mem_of_filter_eq (fun x => (h x).symm) List.mem_cons_self) List.not_mem_nil
  | cons y ys ih =>
    intro zs hys hzs h
    cases zs with
    | nil => exact absurd (mem_of_filter_eq h List.mem_cons_self) List.not_mem_nil
    | cons z zs =>
      have hyz := ne_gt_of_mem hys (mem_of_filter_eq (fun x => (h x).symm) List.mem_cons_self)
      have hzy := ne_gt_of_mem hzs (mem_of_filter_eq h List.mem_cons_self)
      have htied : tied order y z = true := tied_iff.mpr <| Std.OrientedCmp.isLE_antisymm
        (Ordering.ne_gt_iff_isLE.mp hyz) (Ordering.ne_gt_iff_isLE.mp hzy)
      -- the two first elements are tied, and each is the first of its tie
      have hheads := h y
      rw [List.filter_cons_of_pos (tied_self y), List.filter_cons_of_pos htied] at hheads
      obtain rfl := (List.cons.inj hheads).1
      refine congrArg (y :: ·) (ih hys.of_cons hzs.of_cons fun x => ?_)
      have hx := h x
      rw [List.filter_cons, List.filter_cons] at hx
      split at hx
      · exact (List.cons.inj hx).2
      · exact hx

/-- **A list has one stable sort.** -/
theorem StableSortOf.unique [TransCmp order] {xs ys zs : List α}
    (hy : StableSortOf order xs ys) (hz : StableSortOf order xs zs) : ys = zs :=
  eq_of_filter_eq hy.ordered hz.ordered fun x => (hy.stable x).trans (hz.stable x).symm

/-- **A stable sort of a stable sort** is one by the later comparison, with the earlier one for its
ties. -/
theorem StableSortOf.followed {first second : α → α → Ordering} [TransCmp first]
    {xs ys zs : List α} (hs : StableSortOf second xs ys)
    (hf : StableSortOf first ys zs) :
    StableSortOf (fun x y => (first x y).then (second x y)) xs zs where
  perm := hf.perm.trans hs.perm
  ordered := by
    rw [List.pairwise_iff_forall_sublist]
    intro x y hxy
    have hne := List.pairwise_iff_forall_sublist.mp hf.ordered hxy
    cases hc : first x y with
    | lt => exact Ordering.noConfusion
    | gt => exact absurd hc hne
    | eq =>
      -- both stand in one tie, so they stand in the given order in the second sort as well
      have htie := (hxy.filter (tied first x)).trans ((hf.stable x).symm ▸ List.filter_sublist)
      rw [List.filter_cons_of_pos (tied_self x), List.filter_cons_of_pos (tied_iff.mpr hc),
        List.filter_nil] at htie
      exact List.pairwise_iff_forall_sublist.mp hs.ordered htie
  stable x := by
    have hties : tied (fun x y => (first x y).then (second x y)) x =
        fun y => tied first x y && tied second x y := funext (tied_then first second x)
    have hswap : (fun y => tied first x y && tied second x y) =
        fun y => tied second x y && tied first x y := funext fun y => Bool.and_comm ..
    rw [hties, hswap, ← List.filter_filter, hf.stable x, List.filter_filter, ← hswap,
      ← List.filter_filter, hs.stable x, List.filter_filter]

end Order

/-! ### Criteria -/

theorem compareBy_singleton (criterion : SortCriterion) :
    compareBy [criterion] = criterion.compare := by
  funext a b
  rw [compareBy_cons, compareBy, Ordering.then_eq]

theorem stableSortOf_sortBy (criteria : List SortCriterion) (records : List Value) :
    Order.StableSortOf (compareBy criteria) records (sortBy criteria records) :=
  Order.stableSortOf_sortBy records

theorem sortBy_cons (criterion : SortCriterion) (criteria : List SortCriterion)
    (records : List Value) :
    sortBy (criterion :: criteria) records = sortBy [criterion] (sortBy criteria records) := by
  have hfirst := stableSortOf_sortBy [criterion] (sortBy criteria records)
  rw [compareBy_singleton] at hfirst
  have hboth := (stableSortOf_sortBy criteria records).followed hfirst
  have horder : compareBy (criterion :: criteria) =
      fun a b => (criterion.compare a b).then (compareBy criteria a b) :=
    funext fun a => funext fun b => compareBy_cons criterion criteria a b
  rw [← horder] at hboth
  exact (stableSortOf_sortBy (criterion :: criteria) records).unique hboth

theorem sortBy_nil (records : List Value) : sortBy [] records = records :=
  (stableSortOf_sortBy [] records).unique
    ⟨List.Perm.refl _, List.pairwise_of_forall fun _ _ => Ordering.noConfusion, fun _ => rfl⟩

/-- Sorting by all criteria is sorting by each of them, the last one first. -/
theorem sortBy_eq_foldr (criteria : List SortCriterion) (records : List Value) :
    sortBy criteria records =
      criteria.foldr (fun criterion sorted => sortBy [criterion] sorted) records := by
  induction criteria with
  | nil => exact sortBy_nil records
  | cons criterion criteria ih => rw [sortBy_cons, List.foldr_cons, ih]

namespace SortCriterion

/-! ### Criteria in any spelling -/

theorem ofValues_eq_ok_iff {loose : List Value} : ∀ {criteria : List SortCriterion},
    ofValues loose = .ok criteria ↔
      List.Forall₂ (fun v criterion => ofValue v = .ok criterion) loose criteria := by
  induction loose with
  | nil =>
    intro criteria
    rw [ofValues, List.forall₂_nil_left_iff, Except.ok.injEq, eq_comm]
  | cons v loose ih =>
    intro criteria
    rw [ofValues, List.forall₂_cons_left_iff]
    cases ofValue v with
    | error e => exact ⟨fun h => (by cases h), fun ⟨_, _, h, _⟩ => (by cases h)⟩
    | ok criterion =>
      constructor
      · intro h
        cases hrest : ofValues loose with
        | error e => rw [hrest] at h; cases h
        | ok others =>
          rw [hrest] at h
          cases h
          exact ⟨criterion, others, rfl, ih.mp hrest, rfl⟩
      · rintro ⟨_, others, ⟨⟩, hrest, rfl⟩
        dsimp only
        rw [ih.mpr hrest]
        rfl

theorem ofValues_eq_error_iff {loose : List Value} {e : SortError} :
    ofValues loose = .error e ↔ ∃ before malformed after, loose = before ++ malformed :: after ∧
      (∀ v ∈ before, ∃ criterion, ofValue v = .ok criterion) ∧ ofValue malformed = .error e := by
  induction loose with
  | nil =>
    refine ⟨fun h => (by cases h), ?_⟩
    rintro ⟨before, malformed, after, h, -⟩
    cases before <;> cases h
  | cons v loose ih =>
    rw [ofValues]
    constructor
    · intro h
      cases hv : ofValue v with
      | error other =>
        rw [hv] at h
        cases h
        exact ⟨[], v, loose, rfl, by simp, hv⟩
      | ok criterion =>
        rw [hv] at h
        cases hrest : ofValues loose with
        | ok others => rw [hrest] at h; cases h
        | error other =>
          rw [hrest] at h
          cases h
          obtain ⟨before, malformed, after, rfl, hbefore, hbad⟩ := ih.mp hrest
          exact ⟨v :: before, malformed, after, rfl,
            List.forall_mem_cons.mpr ⟨⟨criterion, hv⟩, hbefore⟩, hbad⟩
    · rintro ⟨before, malformed, after, h, hbefore, hbad⟩
      cases before with
      | nil =>
        cases h
        rw [hbad]
      | cons first before =>
        cases h
        obtain ⟨⟨criterion, hv⟩, hbefore⟩ := List.forall_mem_cons.mp hbefore
        rw [hv, ih.mpr ⟨before, malformed, after, rfl, hbefore, hbad⟩]
        rfl

end SortCriterion

/-- **The sort by criteria is the stable sort by their order, and it is sorting by one criterion
after the other, the last one first.**  Criteria in any spelling are refused with the error of the
first malformed one; otherwise they sort as what they spell. -/
theorem sortBy_and_sortRecords :
    (∀ (criteria : List SortCriterion) (records : List Value),
      (∀ sorted, Order.StableSortOf (compareBy criteria) records sorted ↔
        sorted = sortBy criteria records) ∧
      sortBy criteria records =
        criteria.foldr (fun criterion sorted => sortBy [criterion] sorted) records) ∧
    ∀ records loose : List Value,
      (∀ e, sortRecords records loose = .error e ↔
        ∃ before malformed after, loose = before ++ malformed :: after ∧
          (∀ v ∈ before, ∃ criterion, SortCriterion.ofValue v = .ok criterion) ∧
          SortCriterion.ofValue malformed = .error e) ∧
      ∀ sorted, sortRecords records loose = .ok sorted ↔
        ∃ criteria, List.Forall₂ (fun v criterion => SortCriterion.ofValue v = .ok criterion)
            loose criteria ∧ sorted = sortBy criteria records := by
  refine ⟨fun criteria records => ⟨fun sorted => ⟨fun h => ?_, ?_⟩, sortBy_eq_foldr ..⟩,
    fun records loose => ⟨fun e => ?_, fun sorted => ?_⟩⟩
  · exact h.unique (stableSortOf_sortBy criteria records)
  · rintro rfl
    exact stableSortOf_sortBy criteria records
  · rw [← SortCriterion.ofValues_eq_error_iff, sortRecords]
    cases SortCriterion.ofValues loose <;> simp [Except.map]
  · simp only [← SortCriterion.ofValues_eq_ok_iff, sortRecords]
    cases SortCriterion.ofValues loose <;> simp [Except.map, eq_comm]

end RecordQuery

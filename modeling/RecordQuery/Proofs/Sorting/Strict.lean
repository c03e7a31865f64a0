import RecordQuery.Proofs.Sorting.Stability

/-!
# Sorting by a strict test

A strict test need not be an order: it may run in circles.  Insertion sort puts the elements of a
list into an order in which each is below all that follow exactly when the test is an order on these
elements.

* `Order.StrictOrderOn`: a strict test is an order on the elements of a list.
* `Order.pairwise_insertDescending_of_strict`: one insertion.
* `Order.pairwise_stableSort_iff`: when the sorted list stands in order throughout.
-/

namespace RecordQuery.Order

variable {α : Type} {less : α → α → Bool}

/-- A strict test is irreflexive and transitive on the elements of a list, and puts one of any two
different elements before the other. -/
structure StrictOrderOn (less : α → α → Bool) (xs : List α) : Prop where
  irrefl : ∀ x ∈ xs, less x x = false
  trans : ∀ x ∈ xs, ∀ y ∈ xs, ∀ z ∈ xs, less x y = true → less y z = true → less x z = true
  total : ∀ x ∈ xs, ∀ y ∈ xs, x ≠ y → less x y = true ∨ less y x = true

theorem StrictOrderOn.of_subset {xs ys : List α} (h : StrictOrderOn less ys)
    (hsub : ∀ x ∈ xs, x ∈ ys) : StrictOrderOn less xs where
  irrefl x hx := h.irrefl x (hsub x hx)
  trans x hx y hy z hz := h.trans x (hsub x hx) y (hsub y hy) z (hsub z hz)
  total x hx y hy := h.total x (hsub x hx) y (hsub y hy)

/-! ### Insertion -/

theorem pairwise_insertDescending_of_strict {x : α} {ys : List α}
    (h : StrictOrderOn less (x :: ys)) (hx : x ∉ ys)
    (hys : ys.Pairwise fun y z => less z y = true) :
    (insertDescending less x ys).Pairwise fun y z => less z y = true := by
  induction ys with
  | nil => exact List.pairwise_singleton _ _
  | cons y ys ih =>
    obtain ⟨hy, hrest⟩ := List.pairwise_cons.mp hys
    rw [List.mem_cons, not_or] at hx
    rw [insertDescending]
    split
    · next hlt =>
      have hsub : ∀ z ∈ x :: ys, z ∈ x :: y :: ys := by
        intro z hz
        rcases List.mem_cons.mp hz with rfl | hz
        · exact List.mem_cons_self
        · exact List.mem_cons_of_mem _ (List.mem_cons_of_mem _ hz)
      refine List.pairwise_cons.mpr ⟨fun z hz => ?_, ih (h.of_subset hsub) hx.2 hrest⟩
      rcases List.mem_cons.mp ((perm_insertDescending less x ys).mem_iff.mp hz) with rfl | hz
      · exact hlt
      · exact hy z hz
    · next hnot =>
      -- `x` is not below `y`, so it is above it and all that is below it
      have hxm : x ∈ x :: y :: ys := List.mem_cons_self
      have hym : y ∈ x :: y :: ys := List.mem_cons_of_mem _ List.mem_cons_self
      have hyx : less y x = true := (h.total x hxm y hym hx.1).resolve_left hnot
      refine List.pairwise_cons.mpr ⟨fun z hz => ?_, hys⟩
      rcases List.mem_cons.mp hz with rfl | hz
      · exact hyx
      · have hzm : z ∈ x :: y :: ys := List.mem_cons_of_mem _ (List.mem_cons_of_mem _ hz)
        exact h.trans z hzm y hym x hxm (hy z hz) hyx

theorem pairwise_foldl_insertDescending_of_strict {zs : List α} (h : StrictOrderOn less zs) :
    ∀ {xs sorted : List α}, (∀ x ∈ xs ++ sorted, x ∈ zs) → (xs ++ sorted).Nodup →
      sorted.Pairwise (fun y z => less z y = true) →
        (xs.foldl (fun sorted x => insertDescending less x sorted) sorted).Pairwise
          fun y z => less z y = true := by
  intro xs
  induction xs with
  | nil => intro sorted _ _ hsorted; exact hsorted
  | cons x xs ih =>
    intro sorted hsub hnodup hsorted
    have hperm : (xs ++ insertDescending less x sorted).Perm (x :: xs ++ sorted) :=
      ((perm_insertDescending less x sorted).append_left xs).trans List.perm_middle
    have hx : x ∉ sorted := fun hmem =>
      (List.nodup_cons.mp hnodup).1 (List.mem_append_right xs hmem)
    refine ih (fun y hy => hsub y (hperm.mem_iff.mp hy)) (hperm.nodup_iff.mpr hnodup) ?_
    refine pairwise_insertDescending_of_strict (h.of_subset fun y hy => hsub y ?_) hx hsorted
    rcases List.mem_cons.mp hy with rfl | hy
    · exact List.mem_cons_self
    · exact List.mem_cons_of_mem _ (List.mem_append_right xs hy)

theorem pairwise_stableSort {xs : List α} (h : StrictOrderOn less xs) (hnodup : xs.Nodup) :
    (stableSort less xs).Pairwise fun x y => less x y = true := by
  refine List.pairwise_reverse.mpr ?_
  refine pairwise_foldl_insertDescending_of_strict h ?_ ?_ List.Pairwise.nil
  · simp
  · rwa [List.append_nil]

/-! ### Elements in order -/

theorem lt_of_pairwise {xs : List α} (h : xs.Pairwise fun x y => less x y = true)
    (hasymm : ∀ x ∈ xs, ∀ y ∈ xs, less x y = true → less y x = false) {i j : Nat} {x y : α}
    (hi : xs[i]? = some x) (hj : xs[j]? = some y) (hlt : less x y = true) : i < j := by
  obtain ⟨hil, hix⟩ := List.getElem?_eq_some_iff.mp hi
  obtain ⟨hjl, hjy⟩ := List.getElem?_eq_some_iff.mp hj
  have hback := hasymm x (List.mem_of_getElem? hi) y (List.mem_of_getElem? hj) hlt
  rcases Nat.lt_trichotomy i j with hij | rfl | hji
  · exact hij
  · rw [← hix, ← hjy] at hlt hback
    rw [hlt] at hback
    cases hback
  · have hbehind := List.pairwise_iff_getElem.mp h j i hjl hil hji
    rw [hix, hjy, hback] at hbehind
    cases hbehind

theorem strictOrderOn_of_pairwise {xs : List α} (h : xs.Pairwise fun x y => less x y = true)
    (hasymm : ∀ x ∈ xs, ∀ y ∈ xs, less x y = true → less y x = false) : StrictOrderOn less xs where
  irrefl x hx := by
    cases hxx : less x x with
    | false => rfl
    | true =>
      have hback := hasymm x hx x hx hxx
      rw [hxx] at hback
      exact hback
  trans x hx y hy z hz hxy hyz := by
    obtain ⟨i, hi⟩ := List.getElem?_of_mem hx
    obtain ⟨j, hj⟩ := List.getElem?_of_mem hy
    obtain ⟨k, hk⟩ := List.getElem?_of_mem hz
    have hij := lt_of_pairwise h hasymm hi hj hxy
    have hjk := lt_of_pairwise h hasymm hj hk hyz
    obtain ⟨hil, hix⟩ := List.getElem?_eq_some_iff.mp hi
    obtain ⟨hkl, hkz⟩ := List.getElem?_eq_some_iff.mp hk
    have hik := List.pairwise_iff_getElem.mp h i k hil hkl (Nat.lt_trans hij hjk)
    rwa [hix, hkz] at hik
  total x hx y hy hne := by
    obtain ⟨i, hil, hix⟩ := List.getElem_of_mem hx
    obtain ⟨j, hjl, hjy⟩ := List.getElem_of_mem hy
    rcases Nat.lt_trichotomy i j with hij | rfl | hji
    · have hlt := List.pairwise_iff_getElem.mp h i j hil hjl hij
      rw [hix, hjy] at hlt
      exact Or.inl hlt
    · exact absurd (hix.symm.trans hjy) hne
    · have hlt := List.pairwise_iff_getElem.mp h j i hjl hil hji
      rw [hix, hjy] at hlt
      exact Or.inr hlt

/-- **A sorted list stands in order throughout exactly when the test is an order on its
elements.** -/
theorem pairwise_stableSort_iff {xs : List α} (hnodup : xs.Nodup)
    (hasymm : ∀ x ∈ xs, ∀ y ∈ xs, less x y = true → less y x = false) :
    ((stableSort less xs).Pairwise fun x y => less x y = true) ↔ StrictOrderOn less xs := by
  refine ⟨fun h => ?_, fun h => pairwise_stableSort h hnodup⟩
  have hmem : ∀ x, x ∈ stableSort less xs ↔ x ∈ xs := fun x => (perm_stableSort less xs).mem_iff
  refine (strictOrderOn_of_pairwise h fun x hx y hy => ?_).of_subset fun x hx => (hmem x).mpr hx
  exact hasymm x ((hmem x).mp hx) y ((hmem y).mp hy)

end RecordQuery.Order

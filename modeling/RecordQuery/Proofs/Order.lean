import RecordQuery.Order

/-!
# Total preorders

A comparison of elements is a total preorder when it can be turned around, and when it and its ties
are transitive.  This is the class `Std.TransCmp`; here are the comparisons of `Order` as members of
it, and the laws at a single element, which is what an induction over nested data carries along.

* `Order.TotalPreorder`: the laws of a comparison in full.
* `Order.LawfulAt`: the laws of a comparison from one element on.
* `Order.transCmp_of_lawfulAt`, `Order.lawfulAt_of_transCmp`: a comparison is a total preorder when
  its laws hold at all elements.
* `Order.LawfulAt.lexicographic`: lists of elements at which the laws hold.
* `Order.nat_eq_compare` and the like: the comparisons of plain data are those of the library.
-/

namespace RecordQuery.Order

open Std (TransCmp OrientedCmp)

variable {α β : Type} {order : α → α → Ordering}

/-! ### Orderings -/

theorem reverse_eq_swap : reverse = Ordering.swap := by
  funext decided
  cases decided <;> rfl

theorem match_eq_then (first second : Ordering) :
    (match first with
      | .eq => second
      | decided => decided) = first.then second := by
  cases first <;> rfl

/-- The laws of a total preorder.  `≠ .gt` is "before or equal". -/
structure TotalPreorder (order : α → α → Ordering) : Prop where
  refl : ∀ x, order x x = .eq
  reverse : ∀ x y, order y x = reverse (order x y)
  trans : ∀ x y z, order x y ≠ .gt → order y z ≠ .gt → order x z ≠ .gt
  eq_trans : ∀ x y z, order x y = .eq → order y z = .eq → order x z = .eq

theorem totalPreorder_of_transCmp [TransCmp order] : TotalPreorder order where
  refl _ := Std.ReflCmp.compare_self
  reverse x y := by rw [reverse_eq_swap]; exact OrientedCmp.eq_swap
  trans _ _ _ hxy hyz := Ordering.ne_gt_iff_isLE.mpr
    (TransCmp.isLE_trans (Ordering.ne_gt_iff_isLE.mp hxy) (Ordering.ne_gt_iff_isLE.mp hyz))
  eq_trans _ _ _ := TransCmp.eq_trans

/-! ### The laws at one element -/

/-- The laws of a comparison from one element on: turned around, what is equal to the element takes
its place, and what comes after it has everything else that does so behind it. -/
structure LawfulAt (order : α → α → Ordering) (x : α) : Prop where
  swap : ∀ y, order y x = (order x y).swap
  congr : ∀ y z, order x y = .eq → order x z = order y z
  lt_trans : ∀ y z, order x y = .lt → order y z ≠ .gt → order x z = .lt

theorem lawfulAt_of_transCmp [TransCmp order] (x : α) : LawfulAt order x where
  swap _ := OrientedCmp.eq_swap
  congr _ _ h := TransCmp.congr_left h
  lt_trans _ _ hxy hyz := TransCmp.lt_of_lt_of_isLE hxy (Ordering.ne_gt_iff_isLE.mp hyz)

theorem transCmp_of_lawfulAt (h : ∀ x, LawfulAt order x) : TransCmp order where
  eq_swap {x y} := (h y).swap x
  isLE_trans {x y z} hxy hyz := by
    cases hc : order x y with
    | lt => rw [(h x).lt_trans y z hc (Ordering.ne_gt_iff_isLE.mpr hyz)]; rfl
    | eq => rwa [(h x).congr y z hc]
    | gt => rw [hc] at hxy; cases hxy

/-- The laws at an element of a kind, when the kinds are ranked and the kind has a comparison of its
own for its elements. -/
theorem LawfulAt.of_rank (rank : α → Nat) {inKind : β → β → Ordering} (embed : β → α)
    (hlt : ∀ x y, rank x < rank y → order x y = .lt)
    (hgt : ∀ x y, rank y < rank x → order x y = .gt)
    (horder : ∀ a b, order (embed a) (embed b) = inKind a b) {a : β}
    (hkind : ∀ x, rank x = rank (embed a) → ∃ b, x = embed b)
    (h : LawfulAt inKind a) : LawfulAt order (embed a) where
  swap y := by
    rcases Nat.lt_trichotomy (rank (embed a)) (rank y) with hr | hr | hr
    · rw [hlt _ _ hr, hgt _ _ hr]; rfl
    · obtain ⟨b, rfl⟩ := hkind y hr.symm
      rw [horder, horder, h.swap]
    · rw [hlt _ _ hr, hgt _ _ hr]; rfl
  congr y z hy := by
    rcases Nat.lt_trichotomy (rank (embed a)) (rank y) with hr | hr | hr
    · rw [hlt _ _ hr] at hy; cases hy
    · rcases Nat.lt_trichotomy (rank (embed a)) (rank z) with hz | hz | hz
      · rw [hlt _ _ hz, hlt y z (hr ▸ hz)]
      · obtain ⟨b, rfl⟩ := hkind y hr.symm
        obtain ⟨c, rfl⟩ := hkind z hz.symm
        rw [horder] at *
        rw [horder]
        exact h.congr b c hy
      · rw [hgt _ _ hz, hgt y z (hr ▸ hz)]
    · rw [hgt _ _ hr] at hy; cases hy
  lt_trans y z hy hyz := by
    have hle : rank y ≤ rank z := Nat.not_lt.mp fun hr => hyz (hgt y z hr)
    rcases Nat.lt_trichotomy (rank (embed a)) (rank y) with hr | hr | hr
    · exact hlt _ _ (by omega)
    · rcases Nat.lt_or_eq_of_le hle with hz | hz
      · exact hlt _ _ (by omega)
      · obtain ⟨b, rfl⟩ := hkind y hr.symm
        obtain ⟨c, rfl⟩ := hkind z (by omega)
        rw [horder] at *
        exact h.lt_trans b c hy hyz
    · rw [hgt _ _ hr] at hy; cases hy

/-! ### Lists -/

theorem lexicographic_cons_cons (x y : α) (xs ys : List α) :
    lexicographic order (x :: xs) (y :: ys) = (order x y).then (lexicographic order xs ys) := by
  rw [lexicographic]
  exact match_eq_then _ _

/-- The order by the first difference keeps the laws of the order of the elements. -/
theorem LawfulAt.lexicographic : ∀ {xs : List α}, (∀ x ∈ xs, LawfulAt order x) →
    LawfulAt (Order.lexicographic order) xs := by
  intro xs
  induction xs with
  | nil =>
    intro _
    refine ⟨fun ys => ?_, fun ys zs h => ?_, fun ys zs h hyz => ?_⟩
    · cases ys <;> rfl
    · cases ys with
      | nil => rfl
      | cons y ys => cases h
    · cases ys with
      | nil => cases h
      | cons y ys =>
        cases zs with
        | nil => exact absurd rfl hyz
        | cons z zs => rfl
  | cons x xs ih =>
    intro hall
    rw [List.forall_mem_cons] at hall
    obtain ⟨hx, hxs⟩ := hall
    have ih := ih hxs
    refine ⟨fun ys => ?_, fun ys zs h => ?_, fun ys zs h hyz => ?_⟩
    · cases ys with
      | nil => rfl
      | cons y ys =>
        rw [lexicographic_cons_cons, lexicographic_cons_cons, hx.swap, ih.swap, Ordering.swap_then]
    · cases ys with
      | nil => cases h
      | cons y ys =>
        rw [lexicographic_cons_cons, Ordering.then_eq_eq] at h
        cases zs with
        | nil => rfl
        | cons z zs =>
          rw [lexicographic_cons_cons, lexicographic_cons_cons, hx.congr y z h.1,
            ih.congr ys zs h.2]
    · cases ys with
      | nil => cases h
      | cons y ys =>
        cases zs with
        | nil => exact absurd rfl hyz
        | cons z zs =>
          rw [lexicographic_cons_cons] at h hyz ⊢
          rw [Ordering.then_eq_lt] at h ⊢
          rcases h with h | ⟨heq, h⟩
          · -- the first elements decide, as those of the second and third lists cannot turn it
            refine Or.inl (hx.lt_trans y z h fun hgt => hyz ?_)
            rw [hgt]
            rfl
          · rw [hx.congr y z heq]
            cases hc : order y z with
            | lt => exact Or.inl rfl
            | eq =>
              rw [hc] at hyz
              exact Or.inr ⟨rfl, ih.lt_trans ys zs h hyz⟩
            | gt =>
              rw [hc] at hyz
              exact absurd rfl hyz

instance [TransCmp order] : TransCmp (lexicographic order) :=
  transCmp_of_lawfulAt fun _ => .lexicographic fun x _ => lawfulAt_of_transCmp x

/-! ### Plain data -/

theorem nat_eq_compare : nat = compare := by
  funext m n
  simp [nat, ofLess, Nat.compare_eq_ite_lt]

theorem bool_eq_compare : bool = compare := by
  funext a b
  cases a <;> cases b <;> rfl

theorem transCmp_on {cmp : β → β → Ordering} [TransCmp cmp] (key : α → β) :
    TransCmp fun x y => cmp (key x) (key y) where
  eq_swap := OrientedCmp.eq_swap
  isLE_trans := TransCmp.isLE_trans

theorem transCmp_then {first second : α → α → Ordering} [TransCmp first] [TransCmp second] :
    TransCmp fun x y => (first x y).then (second x y) :=
  @Std.instTransCmpCompareLex α first second _ _

instance : TransCmp nat := nat_eq_compare ▸ inferInstance

instance : TransCmp bool := bool_eq_compare ▸ inferInstance

instance : TransCmp char := transCmp_on Char.toNat

instance : TransCmp text := transCmp_on String.toList

end RecordQuery.Order

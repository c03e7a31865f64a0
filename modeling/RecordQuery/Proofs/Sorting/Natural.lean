import RecordQuery.Proofs.Pattern.Nesting
import RecordQuery.Proofs.Sorting.Stability

/-!
# The natural sort of items and the sort of records

Items are sorted in descending order by turning round the list in ascending order, records by
turning round the comparison.  Both come to the same on items that are told apart; of items that are
tied, the first way turns the order round and the second one keeps it.

* `Order.map_sortBy`: sorting by a key.
* `Order.StableSortOf.reverse`: a stable sort from its end.
* `Order.EvenTies`, `Order.stableSortOf_reverse_iff`: when turning round a stable sort makes another
  one.
* `Direction.stableSortOf_read_iff`: the same for either direction.
* `Registry.evaluate?_sort`: what `$sort` makes of an array.
* `sortBy_map_atPath`: the sort of records that hold an item each.
* `Items.sort_eq_sortBy_iff`: when the two sorts come to the same.
-/

namespace RecordQuery

open Std (TransCmp)

namespace Order

variable {α β : Type}

/-! ### Sorting by a key -/

theorem map_insertDescending {less : α → α → Bool} {other : β → β → Bool} {f : α → β} {x : α}
    {ys : List α} (h : ∀ y ∈ ys, less x y = other (f x) (f y)) :
    (insertDescending less x ys).map f = insertDescending other (f x) (ys.map f) := by
  induction ys with
  | nil => rfl
  | cons y ys ih =>
    rw [List.forall_mem_cons] at h
    rw [insertDescending, List.map_cons, insertDescending, ← h.1]
    split
    · rw [List.map_cons, ih h.2]
    · rfl

theorem map_foldl_insertDescending {less : α → α → Bool} {other : β → β → Bool} {f : α → β} :
    ∀ {xs sorted : List α},
      (∀ x ∈ xs ++ sorted, ∀ y ∈ xs ++ sorted, less x y = other (f x) (f y)) →
        (xs.foldl (fun sorted x => insertDescending less x sorted) sorted).map f =
          (xs.map f).foldl (fun sorted x => insertDescending other x sorted) (sorted.map f) := by
  intro xs
  induction xs with
  | nil => intro sorted _; rfl
  | cons x xs ih =>
    intro sorted h
    have hperm : (xs ++ insertDescending less x sorted).Perm (x :: xs ++ sorted) :=
      ((perm_insertDescending less x sorted).append_left xs).trans List.perm_middle
    have hinsert : ∀ y ∈ sorted, less x y = other (f x) (f y) := fun y hy =>
      h x List.mem_cons_self y (List.mem_append_right _ hy)
    rw [List.foldl_cons, List.map_cons, List.foldl_cons, ← map_insertDescending hinsert]
    exact ih fun y hy z hz => h y (hperm.mem_iff.mp hy) z (hperm.mem_iff.mp hz)

theorem map_sortBy {order : α → α → Ordering} {other : β → β → Ordering} {f : α → β} {xs : List α}
    (h : ∀ x ∈ xs, ∀ y ∈ xs, order x y = other (f x) (f y)) :
    (Order.sortBy order xs).map f = Order.sortBy other (xs.map f) := by
  rw [Order.sortBy, Order.sortBy, stableSort, stableSort, List.map_reverse,
    map_foldl_insertDescending]
  · rfl
  · intro x hx y hy
    rw [List.append_nil] at hx hy
    rw [h x hx y hy]

/-! ### From the end -/

variable {order : α → α → Ordering} {xs ys : List α}

theorem tied_swap [TransCmp order] (x : α) : tied (fun x y => order y x) x = tied order x := by
  funext y
  rw [Bool.eq_iff_iff, tied_iff, tied_iff]
  exact Std.OrientedCmp.eq_comm

/-- A stable sort read from its end is one of the list read from its end. -/
theorem StableSortOf.reverse [TransCmp order] (h : StableSortOf order xs ys) :
    StableSortOf (fun x y => order y x) xs.reverse ys.reverse where
  perm := (List.reverse_perm ys).trans (h.perm.trans (List.reverse_perm xs).symm)
  ordered := List.pairwise_reverse.mpr h.ordered
  stable x := by rw [tied_swap, List.filter_reverse, List.filter_reverse, h.stable x]

/-- The elements of each tie read the same from both ends. -/
def EvenTies (order : α → α → Ordering) (xs : List α) : Prop :=
  ∀ x, (xs.filter (tied order x)).reverse = xs.filter (tied order x)

/-- **A stable sort turned round is a stable sort** by the comparison turned round exactly when the
ties read the same from both ends. -/
theorem stableSortOf_reverse_iff [TransCmp order] (h : StableSortOf order xs ys) :
    StableSortOf (fun x y => order y x) xs ys.reverse ↔ EvenTies order xs := by
  have hback := h.reverse
  constructor
  · intro hs x
    rw [← List.filter_reverse, ← tied_swap, ← hback.stable x, hs.stable x]
  · intro hties
    refine ⟨(List.reverse_perm ys).trans h.perm, hback.ordered, fun x => ?_⟩
    rw [hback.stable x, tied_swap, List.filter_reverse, hties x]

end Order

/-! ### Directions -/

namespace Direction

variable {α : Type} {order : α → α → Ordering} {xs ys : List α}

/-- A list read from its front, or from its end. -/
def read : Direction → List α → List α
  | .ascending, xs => xs
  | .descending, xs => xs.reverse

/-- Read from the end, a stable sort is one in the other direction, of the list read from its
end. -/
theorem stableSortOf_read [TransCmp order] (direction : Direction)
    (h : Order.StableSortOf order xs ys) :
    Order.StableSortOf (fun x y => direction.apply (order x y)) (direction.read xs)
      (direction.read ys) := by
  cases direction with
  | ascending => exact h
  | descending =>
    rw [apply_descending]
    exact h.reverse

/-- A stable sort is one in the other direction as well if it is read from the end and the ties are
even. -/
theorem stableSortOf_read_iff [TransCmp order] (direction : Direction)
    (h : Order.StableSortOf order xs ys) :
    Order.StableSortOf (fun x y => direction.apply (order x y)) xs (direction.read ys) ↔
      (direction = .descending → Order.EvenTies order xs) := by
  cases direction with
  | ascending => exact ⟨fun _ hd => (by cases hd), fun _ => h⟩
  | descending =>
    rw [apply_descending, forall_prop_of_true rfl]
    exact Order.stableSortOf_reverse_iff h

end Direction

/-! ### Items and records -/

/-- Without a function to compare by, `$sort` makes the natural sort of an array. -/
theorem Registry.evaluate?_sort (functions : Functions) (items : List Value) {options : Value}
    (h : ∀ name, options.field "compare" ≠ .function name) :
    let sorted := Items.sortNaturally (options.textOption? "order" == some "desc") items
    (builtins functions).evaluate? (.array items) (.record [("$sort", options)]) =
      some ⟨.array sorted, [⟨[], .set (.array sorted)⟩]⟩ := by
  intro sorted
  rw [evaluate?_transform_root (by decide) rfl rfl]
  dsimp only [Transform.ofItems, Transform.ofPartial, Value.array?, Option.bind_some]
  cases hc : options.field "compare" with
  | function name => exact absurd hc (h name)
  | _ => rfl

theorem SortCriterion.compare_atPath (criterion : SortCriterion) {v w : Value}
    (hv : v ≠ .undefined) (hw : w ≠ .undefined) :
    criterion.compare (v.atPath (Path.segments criterion.path))
        (w.atPath (Path.segments criterion.path)) = criterion.direction.apply (v.compare w) := by
  have hkey : ∀ v : Value, criterion.key (v.atPath (Path.segments criterion.path)) = v :=
    fun v => by
    rw [key, Value.getPath?, Value.follow?_atPath, Option.getD_some]
  have hpresent : ∀ v : Value, v ≠ .undefined → v.isUndefined = false := fun v hv =>
    Bool.eq_false_iff.mpr (mt Value.isUndefined_eq_true_iff.mp hv)
  rw [compare, hkey, hkey, compareKeys_eq, hpresent v hv, hpresent w hw]
  rfl

/-- Sorting records that hold an item each is sorting the items. -/
theorem sortBy_map_atPath (criterion : SortCriterion) {items : List Value}
    (h : ∀ item ∈ items, item ≠ .undefined) :
    sortBy [criterion] (items.map (Value.atPath (Path.segments criterion.path))) =
      (Order.sortBy (fun v w => criterion.direction.apply (v.compare w)) items).map
        (Value.atPath (Path.segments criterion.path)) := by
  rw [sortBy, compareBy_singleton]
  exact (Order.map_sortBy fun v hv w hw => (criterion.compare_atPath (h v hv) (h w hw)).symm).symm

namespace Items

theorem sortNaturally_eq_read (direction : Direction) (items : List Value) :
    sortNaturally (direction == .descending) items =
      direction.read (Order.sortBy Value.compare items) := by
  cases direction <;> rfl

/-- **The natural sort of items and the sort of records that hold an item each** come to the same
sequence exactly when the order ascends or the ties read the same from both ends.  The sort of
records is stable; the natural sort is so on the same condition, and else of the items from their
end. -/
theorem sort_eq_sortBy_iff (functions : Functions) (path : String) (direction : Direction)
    {options : Value} (hcompare : ∀ name, options.field "compare" ≠ .function name)
    (horder : options.textOption? "order" = some direction.word) {items : List Value}
    (hitems : ∀ item ∈ items, item ≠ .undefined) :
    let order : Value → Value → Ordering := fun v w => direction.apply (v.compare w)
    let record : Value → Value := Value.atPath (Path.segments path)
    (Path.isDotted path = false → record = fun item => .record [(path, item)]) ∧
    (∀ stable, sortBy [⟨path, direction⟩] (items.map record) = stable.map record ↔
      Order.StableSortOf order items stable) ∧
    ∃ sorted : List Value,
      (Registry.builtins functions).evaluate? (.array items) (.record [("$sort", options)]) =
        some ⟨.array sorted, [⟨[], .set (.array sorted)⟩]⟩ ∧
      (sortBy [⟨path, direction⟩] (items.map record) = sorted.map record ↔
        (direction = .descending → Order.EvenTies Value.compare items)) ∧
      (Order.StableSortOf order items sorted ↔
        (direction = .descending → Order.EvenTies Value.compare items)) ∧
      Order.StableSortOf order (direction.read items) sorted := by
  intro order record
  have hlawful : TransCmp order := direction.transCmp_apply
  have hnatural : Order.StableSortOf Value.compare items (Order.sortBy Value.compare items) :=
    Order.stableSortOf_sortBy items
  have hsort : Order.StableSortOf order items (Order.sortBy order items) :=
    Order.stableSortOf_sortBy items
  have hrecords : ∀ stable, sortBy [⟨path, direction⟩] (items.map record) = stable.map record ↔
      Order.StableSortOf order items stable := fun stable => by
    rw [sortBy_map_atPath ⟨path, direction⟩ hitems,
      (List.map_injective_iff.mpr (Value.atPath_injective (Path.segments path))).eq_iff]
    exact ⟨fun h => h ▸ hsort, fun h => hsort.unique h⟩
  have hword : (options.textOption? "order" == some "desc") = (direction == .descending) := by
    rw [horder]
    cases direction <;> rfl
  have hiff := direction.stableSortOf_read_iff hnatural
  refine ⟨fun h => ?_, hrecords, direction.read (Order.sortBy Value.compare items), ?_,
    (hrecords _).trans hiff, hiff, direction.stableSortOf_read hnatural⟩
  · show Value.atPath (Path.segments path) = _
    rw [Pattern.segments_of_isDotted_eq_false h]
    rfl
  · rw [Registry.evaluate?_sort functions items hcompare, hword, sortNaturally_eq_read]

/-- Two records under `k` are tied: the two sorts come to the same in ascending order only. -/
theorem sort_eq_sortBy_iff_records :
    let functions : Functions := fun _ _ => .undefined
    let items : List Value := [.record [("a", .null)], .null, .record [("b", .null)]]
    let record : Value → Value := fun item => .record [("k", item)]
    let options : Direction → Value := fun direction => .record [("order", .string direction.word)]
    ∃ up down : List Value,
      ((Registry.builtins functions).evaluate? (.array items)
        (.record [("$sort", options .ascending)])).map (·.value) = some (.array up) ∧
      sortBy [⟨"k", .ascending⟩] (items.map record) = up.map record ∧
      ((Registry.builtins functions).evaluate? (.array items)
        (.record [("$sort", options .descending)])).map (·.value) = some (.array down) ∧
      sortBy [⟨"k", .descending⟩] (items.map record) ≠ down.map record := by
  intro functions items record options
  have hcompare : ∀ direction name, (options direction).field "compare" ≠ .function name :=
    fun direction name h => by cases h
  have hitems : ∀ item ∈ items, item ≠ .undefined := by simp [items]
  have hplain : Path.isDotted "k" = false := by decide
  obtain ⟨hrecord, -, up, hup, hsame, -⟩ :=
    sort_eq_sortBy_iff functions "k" .ascending (hcompare .ascending) rfl hitems
  obtain ⟨-, -, down, hdown, hother, -⟩ :=
    sort_eq_sortBy_iff functions "k" .descending (hcompare .descending) rfl hitems
  rw [hrecord hplain] at hsame hother
  have huneven : ¬ Order.EvenTies Value.compare items := fun h => by
    have htie : [Value.record [("b", .null)], .record [("a", .null)]] =
        [.record [("a", .null)], .record [("b", .null)]] := h (.record [("a", .null)])
    simp at htie
  refine ⟨up, down, ?_, hsame.mpr fun h => (by cases h), ?_, fun h => huneven (hother.mp h rfl)⟩
  · rw [hup, Option.map_some]
  · rw [hdown, Option.map_some]

/-- Of two tied records, `$sort` in descending order puts the second one first, and the sort of
records that hold them the first one. -/
theorem not_sort_eq_sortBy :
    let first : Value := .record [("a", .null)]
    let second : Value := .record [("b", .null)]
    let descending : Value := .record [("order", .string "desc")]
    (Registry.builtins fun _ _ => .undefined).evaluate? (.array [first, second])
        (.record [("$sort", descending)]) =
      some ⟨.array [second, first], [⟨[], .set (.array [second, first])⟩]⟩ ∧
    sortBy [⟨"k", .descending⟩] [.record [("k", first)], .record [("k", second)]] =
      [.record [("k", first)], .record [("k", second)]] := by
  intro first second descending
  have hcompare : ∀ name, descending.field "compare" ≠ .function name := fun name h => by cases h
  have hsegments : Path.segments "k" = ["k"] :=
    Pattern.segments_of_isDotted_eq_false (by decide)
  constructor
  · rw [Registry.evaluate?_sort _ _ hcompare]
    rfl
  · have hitems : ∀ item ∈ [first, second], item ≠ .undefined := by simp [first, second]
    have hrecords := sortBy_map_atPath ⟨"k", .descending⟩ hitems
    rw [hsegments] at hrecords
    exact hrecords

end Items

end RecordQuery

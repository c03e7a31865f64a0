import RecordQuery.Proofs.Binary64.Comparison
import RecordQuery.Proofs.Value.Similar

/-!
# The order of values is a total preorder

Kinds of values are ranked, and each kind has a comparison of its own that is a total preorder; that
of arrays is the order by the first difference of the items, which are values of any kinds again.

* `compare_of_kindRank_ne`: values of different rank are ordered by their ranks.
* `lawfulAt_compare`: the laws of the order, by induction over values.
* `compare_eq_eq_of_beq`: equal values stand in one place.
-/

namespace RecordQuery

open Std (TransCmp)

/-! ### Texts and instants -/

theorem Text.caselessOrder_eq (s t : String) :
    Text.caselessOrder s t =
      (Order.lexicographic Order.char (Text.toLower s.toList) (Text.toLower t.toList)).then
        (Order.text t s) := Order.match_eq_then _ _

instance : TransCmp Text.caselessOrder := by
  have hlower : TransCmp fun s t : String =>
      Order.lexicographic Order.char (Text.toLower s.toList) (Text.toLower t.toList) :=
    Order.transCmp_on fun s : String => Text.toLower s.toList
  have hcase : TransCmp fun s t : String => Order.text t s := Std.TransCmp.opposite
  have h : Text.caselessOrder = _ := funext fun s => funext fun t => Text.caselessOrder_eq s t
  rw [h]
  exact Order.transCmp_then

theorem Instant.order_eq (s t : Instant) :
    s.order t = (Ord.compare s.seconds t.seconds).then (Ord.compare s.nanos t.nanos) := by
  rcases Int.lt_trichotomy s.seconds t.seconds with h | h | h
  · simp [Instant.order, Instant.before, Int.compare_eq_ite_lt, h]
  · simp [Instant.order, Instant.before, Nat.compare_eq_ite_lt, h]
  · simp [Instant.order, Instant.before, Int.compare_eq_ite_lt, h, Int.ne_of_gt h,
      Int.lt_asymm h]

instance : TransCmp Instant.order := by
  have hseconds : TransCmp fun s t : Instant => Ord.compare s.seconds t.seconds :=
    Order.transCmp_on Instant.seconds
  have hnanos : TransCmp fun s t : Instant => Ord.compare s.nanos t.nanos :=
    Order.transCmp_on Instant.nanos
  have h : Instant.order = _ := funext fun s => funext fun t => Instant.order_eq s t
  rw [h]
  exact Order.transCmp_then

namespace Value

/-! ### Kinds -/

theorem compareItems_eq (xs : List Value) : ∀ ys,
    compareItems xs ys = Order.lexicographic compare xs ys := by
  induction xs with
  | nil => intro ys; cases ys <;> rfl
  | cons x xs ih =>
    intro ys
    cases ys with
    | nil => rfl
    | cons y ys =>
      rw [compareItems, Order.lexicographic_cons_cons, ← ih]
      exact Order.match_eq_then _ _

/-- Values of different rank are ordered by their ranks. -/
theorem compare_of_kindRank_ne {v w : Value} (h : v.kindRank ≠ w.kindRank) :
    v.compare w = Order.nat v.kindRank w.kindRank := by
  cases v <;> cases w <;> first | rfl | exact absurd rfl h

theorem compare_of_kindRank_lt {v w : Value} (h : v.kindRank < w.kindRank) :
    v.compare w = .lt := by
  rw [compare_of_kindRank_ne (by omega), Order.nat_eq_compare, Nat.compare_eq_lt]
  exact h

theorem compare_of_kindRank_gt {v w : Value} (h : w.kindRank < v.kindRank) :
    v.compare w = .gt := by
  rw [compare_of_kindRank_ne (by omega), Order.nat_eq_compare, Nat.compare_eq_gt]
  exact h

/-- The laws of the order at a value of a kind that has a lawful comparison of its own. -/
theorem lawfulAt_of_kind {α : Type} (inKind : α → α → Ordering) (embed : α → Value)
    (horder : ∀ a b, (embed a).compare (embed b) = inKind a b) {a : α}
    (hkind : ∀ v : Value, v.kindRank = (embed a).kindRank → ∃ b, v = embed b)
    (h : Order.LawfulAt inKind a) : Order.LawfulAt compare (embed a) :=
  .of_rank kindRank embed (fun _ _ => compare_of_kindRank_lt) (fun _ _ => compare_of_kindRank_gt)
    horder hkind h

/-- The laws of the order at a value of a kind whose values are not told apart. -/
theorem lawfulAt_of_tied {v : Value} (h : ∀ w u : Value, w.kindRank = v.kindRank →
    u.kindRank = v.kindRank → w.compare u = .eq) : Order.LawfulAt compare v := by
  have hlaws : Order.LawfulAt (fun _ _ : { w : Value // w.kindRank = v.kindRank } => .eq)
      ⟨v, rfl⟩ := ⟨fun _ => rfl, fun _ _ _ => rfl, fun _ _ h => (by cases h)⟩
  exact lawfulAt_of_kind _ Subtype.val (fun w u => h w u w.property u.property)
    (fun w hw => ⟨⟨w, hw⟩, rfl⟩) hlaws

/-! ### All values -/

/-- **The laws of the order hold at every value.** -/
theorem lawfulAt_compare (v : Value) : Order.LawfulAt compare v := by
  induction v using Value.induct with
  | array items ih =>
    refine lawfulAt_of_kind (Order.lexicographic compare) .array (fun xs ys => ?_) (fun v hv => ?_)
      (Order.LawfulAt.lexicographic ih)
    · rw [compare]
      exact compareItems_eq xs ys
    · cases v with
      | array ys => exact ⟨ys, rfl⟩
      | _ => cases hv
  | record entries _ =>
    refine lawfulAt_of_tied fun v w hv hw => ?_
    cases v <;> cases hv
    cases w <;> cases hw
    rfl
  | scalar v ha hr =>
    cases v with
    | array => cases ha
    | record => cases hr
    | bool b =>
      refine lawfulAt_of_kind Order.bool .bool (fun _ _ => rfl) (fun v hv => ?_)
        (Order.lawfulAt_of_transCmp b)
      cases v <;> cases hv
      exact ⟨_, rfl⟩
    | number x =>
      refine lawfulAt_of_kind Binary64.totalOrder .number (fun _ _ => rfl) (fun v hv => ?_)
        (Order.lawfulAt_of_transCmp x)
      cases v <;> cases hv
      exact ⟨_, rfl⟩
    | string s =>
      refine lawfulAt_of_kind Text.caselessOrder .string (fun _ _ => rfl) (fun v hv => ?_)
        (Order.lawfulAt_of_transCmp s)
      cases v <;> cases hv
      exact ⟨_, rfl⟩
    | date t =>
      refine lawfulAt_of_kind Instant.order .date (fun _ _ => rfl) (fun v hv => ?_)
        (Order.lawfulAt_of_transCmp t)
      cases v <;> cases hv
      exact ⟨_, rfl⟩
    | binary bytes =>
      have hbytes : TransCmp fun x y : UInt8 => Order.nat x.toNat y.toNat :=
        Order.transCmp_on UInt8.toNat
      refine lawfulAt_of_kind (Order.lexicographic _) .binary (fun _ _ => rfl) (fun v hv => ?_)
        (Order.lawfulAt_of_transCmp bytes)
      cases v <;> cases hv
      exact ⟨_, rfl⟩
    | undefined =>
      refine lawfulAt_of_tied fun v w hv hw => ?_
      cases v <;> cases hv <;> cases w <;> cases hw <;> rfl
    | null =>
      refine lawfulAt_of_tied fun v w hv hw => ?_
      cases v <;> cases hv <;> cases w <;> cases hw <;> rfl
    | function name =>
      refine lawfulAt_of_tied fun v w hv hw => ?_
      cases v <;> cases hv
      cases w <;> cases hw
      rfl

instance : TransCmp compare := Order.transCmp_of_lawfulAt lawfulAt_compare

theorem compareItems_eq_eq_of_beqItems {xs : List Value}
    (h : ∀ x ∈ xs, ∀ y, beq x y = true → compare x y = .eq) : ∀ {ys}, beqItems xs ys = true →
      compareItems xs ys = .eq := by
  induction xs with
  | nil =>
    intro ys hb
    cases ys with
    | nil => rfl
    | cons y ys => cases hb
  | cons x xs ih =>
    intro ys hb
    rw [List.forall_mem_cons] at h
    cases ys with
    | nil => cases hb
    | cons y ys =>
      rw [beqItems, Bool.and_eq_true] at hb
      rw [compareItems, h.1 y hb.1]
      exact ih h.2 hb.2

theorem compare_eq_eq_of_beq {v : Value} : ∀ {w : Value}, beq v w = true → v.compare w = .eq := by
  induction v using Value.induct with
  | array items ih =>
    intro w h
    cases w with
    | array others => exact compareItems_eq_eq_of_beqItems (fun x hx y => ih x hx) h
    | _ => cases h
  | record entries _ =>
    intro w h
    cases w with
    | record others => rfl
    | _ => cases h
  | scalar v ha hr =>
    intro w h
    cases v with
    | array => cases ha
    | record => cases hr
    | number x =>
      cases w with
      | number y => exact Binary64.totalOrder_eq_eq_of_beq h
      | _ => cases h
    | bool b => cases w with | bool c => exact eq_of_beq h ▸ Std.ReflCmp.compare_self | _ => cases h
    | string s =>
      cases w with
      | string t => exact eq_of_beq h ▸ Std.ReflCmp.compare_self
      | _ => cases h
    | date s =>
      cases w with
      | date t =>
        obtain ⟨hseconds, hnanos⟩ := Bool.and_eq_true_iff.mp h
        show s.order t = .eq
        rw [Instant.order_eq, eq_of_beq hseconds, eq_of_beq hnanos, Std.compare_self,
          Std.compare_self]
        rfl
      | _ => cases h
    | binary bs =>
      cases w with
      | binary cs => exact eq_of_beq h ▸ Std.ReflCmp.compare_self
      | _ => cases h
    | undefined => cases w with | undefined => rfl | _ => cases h
    | null => cases w with | null => rfl | _ => cases h
    | function f => cases w with | function g => rfl | _ => cases h

end Value

end RecordQuery

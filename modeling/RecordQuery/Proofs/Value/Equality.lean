import RecordQuery.Proofs.Value.Similar

/-!
# Equality as a partial equivalence

A NaN differs from itself, so `v == w` is no equivalence.  On well-formed values it can be turned
around and chained, and it fails to be reflexive only where a NaN lies inside a value.  The
comparison for membership, `Value.same`, lets two NaN pass as well, but only as the values
themselves.

* `Value.PartialEquivalence`: a comparison that can be turned around and chained.
* `Value.similar_self_iff`: a value is similar to itself when its numbers are related to themselves.
* `Value.beq_self_iff`: a value is equal to itself exactly when no number inside it is NaN.
* `Value.same_iff`: equal values are the same, and so are two NaN.
* `Value.partialEquivalence_beq_same`: both comparisons are partial equivalences.
-/

namespace RecordQuery.Value

/-- The laws of a comparison of well-formed values that need not hold of a value and itself. -/
structure PartialEquivalence (related : Value → Value → Bool) : Prop where
  symm : ∀ {v w : Value}, v.WellFormed → w.WellFormed → related v w = true → related w v = true
  trans : ∀ {u v w : Value}, u.WellFormed → v.WellFormed → w.WellFormed →
    related u v = true → related v w = true → related u w = true

/-- No number that lies in the value is NaN. -/
def NaNFree (v : Value) : Prop := ∀ ⦃x : Float⦄, Occurs (.number x) v → x.isNaN = false

/-! ### Strict equality -/

theorem beq_symm {v w : Value} (hv : v.WellFormed) (hw : w.WellFormed) (h : (v == w) = true) :
    (w == v) = true := by
  have hsimilar := (beq_iff_similar hv hw).mp h
  refine (beq_iff_similar hw hv).mpr (Similar.symm ?_ hsimilar)
  intro x y hxy
  rw [Binary64.beq_comm]
  exact hxy

theorem beq_trans {u v w : Value} (hu : u.WellFormed) (hv : v.WellFormed) (hw : w.WellFormed)
    (huv : (u == v) = true) (hvw : (v == w) = true) : (u == w) = true := by
  have hleft := (beq_iff_similar hu hv).mp huv
  have hright := (beq_iff_similar hv hw).mp hvw
  refine (beq_iff_similar hu hw).mpr (Similar.trans ?_ hleft hright)
  intro x y z hxy hyz
  exact Binary64.beq_trans hxy hyz

/-- A value without repeated keys is similar to itself exactly when all numbers inside it are
related to themselves. -/
theorem similar_self_iff {r : Float → Float → Prop} : ∀ {v : Value}, v.WellFormed →
    (Similar r v v ↔ ∀ x, Occurs (.number x) v → r x x) := by
  intro v
  induction v using Value.induct with
  | scalar v ha hrec =>
    intro _
    constructor
    · intro h x hx
      cases hx with
      | self => cases h with | number h => exact h
      | item => cases ha
      | field => cases hrec
    · intro h
      cases v with
      | number x => exact .number (h x .self)
      | array => cases ha
      | record => cases hrec
      | _ => constructor
  | array items ih =>
    intro hv
    rw [wellFormed_array] at hv
    constructor
    · intro h x hx
      cases h with
      | array h =>
        cases hx with
        | item hi hx =>
          obtain ⟨i, hget⟩ := List.getElem?_of_mem hi
          have hitem := h i
          rw [hget] at hitem
          cases hitem with
          | some hitem => exact (ih _ hi (hv _ hi)).mp hitem x hx
    · intro h
      refine .array fun i => rel_refl fun item hget => ?_
      have hi := List.mem_of_getElem? hget
      exact (ih item hi (hv item hi)).mpr fun x hx => h x (.item hi hx)
  | record entries ih =>
    intro hv
    rw [wellFormed_record] at hv
    constructor
    · intro h x hx
      cases h with
      | record h =>
        cases hx with
        | @field entry _ he hx =>
          -- as keys are distinct, the entry is the one that lookup finds
          have hfield := h entry.1
          rw [Assoc.get?_of_mem hv.1 he] at hfield
          cases hfield with
          | some hfield => exact (ih entry he (hv.2 entry he)).mp hfield x hx
    · intro h
      refine .record fun key => rel_refl fun value hget => ?_
      have he := Assoc.mem_of_get? hget
      exact (ih _ he (hv.2 _ he)).mpr fun x hx => h x (.field he hx)

/-- **A value is equal to itself exactly when no number inside it is NaN.** -/
theorem beq_self_iff {v : Value} (hv : v.WellFormed) : (v == v) = true ↔ v.NaNFree := by
  rw [show (v == v) = beq v v from rfl, beq_iff_similar hv hv, similar_self_iff hv]
  refine forall₂_congr fun x _ => ?_
  rw [Binary64.beq_self, Bool.not_eq_true']

/-! ### Membership -/

/-- What `same` adds to strict equality: two numbers that are both NaN. -/
theorem same_iff {v w : Value} : same v w = true ↔
    (v == w) = true ∨ ∃ x y, v = .number x ∧ w = .number y ∧ x.isNaN = true ∧ y.isNaN = true := by
  by_cases hnumbers : ∃ x y, v = .number x ∧ w = .number y
  · obtain ⟨x, y, rfl, rfl⟩ := hnumbers
    rw [same, Bool.or_eq_true, Bool.and_eq_true, or_comm]
    refine or_congr Iff.rfl ⟨fun h => ⟨x, y, rfl, rfl, h⟩, ?_⟩
    rintro ⟨_, _, hx, hy, h⟩
    cases hx
    cases hy
    exact h
  · have hsame : same v w = (v == w) := by
      rw [same]
      exact fun x y hv hw => hnumbers ⟨x, y, hv, hw⟩
    rw [hsame]
    refine ⟨Or.inl, fun h => h.elim id ?_⟩
    rintro ⟨x, y, hv, hw, -⟩
    exact absurd ⟨x, y, hv, hw⟩ hnumbers

theorem beq_number_eq_false {x : Float} (hx : x.isNaN = true) (w : Value) :
    (Value.number x == w) = false := by
  cases w with
  | number y => exact Binary64.beq_eq_false_of_isNaN hx y
  | _ => rfl

theorem partialEquivalence_same : PartialEquivalence same where
  symm hv hw h := by
    rw [same_iff] at h ⊢
    rcases h with h | ⟨x, y, rfl, rfl, hx, hy⟩
    · exact Or.inl (beq_symm hv hw h)
    · exact Or.inr ⟨y, x, rfl, rfl, hy, hx⟩
  trans hu hv hw huv hvw := by
    rw [same_iff] at *
    rcases huv with huv | ⟨x, y, rfl, rfl, hx, hy⟩
    · rcases hvw with hvw | ⟨y, z, rfl, rfl, hy, -⟩
      · exact Or.inl (beq_trans hu hv hw huv hvw)
      · -- nothing is equal to a NaN, from either side
        have hnan := beq_symm hu hv huv
        rw [beq_number_eq_false hy] at hnan
        cases hnan
    · rcases hvw with hvw | ⟨_, z, hyv, rfl, -, hz⟩
      · rw [beq_number_eq_false hy] at hvw
        cases hvw
      · exact Or.inr ⟨x, z, rfl, rfl, hx, hz⟩

/--
**Strict equality is a partial equivalence on values without repeated keys.**  It compares records
as unordered maps at every depth, and a value is equal to itself exactly when no number inside it is
NaN.  The comparison for membership is a partial equivalence, too.
-/
theorem partialEquivalence_beq_same :
    PartialEquivalence (fun v w => v == w) ∧
      (∀ v w : Value, v.WellFormed → w.WellFormed →
        ((v == w) = true ↔ Similar (fun x y => (x == y) = true) v w)) ∧
      (∀ v : Value, v.WellFormed → ((v == v) = true ↔ v.NaNFree)) ∧
      PartialEquivalence same := by
  refine ⟨⟨beq_symm, beq_trans⟩, ?_, ?_, partialEquivalence_same⟩
  · intro v w hv hw
    exact beq_iff_similar hv hw
  · intro v hv
    exact beq_self_iff hv

/-- The keys of a record and of a record inside it in two orders, and zeros of both signs. -/
theorem partialEquivalence_beq_same_reordered :
    let v : Value :=
      .record [("a", .array [.number 0.0, .record [("b", .null), ("c", .bool true)]]),
      ("d", .string "x")]
    let w : Value := .record [("d", .string "x"),
      ("a", .array [.number (-0.0), .record [("c", .bool true), ("b", .null)]])]
    let n : Value := .array [.number Binary64.nan]
    (v.WellFormed ∧ w.WellFormed ∧ n.WellFormed) ∧ (v == w) = true ∧
      (w == v) = true ∧ (v == v) = true ∧
      Similar (fun x y => (x == y) = true) v w ∧ v.NaNFree ∧ ¬n.NaNFree ∧
      same (.number Binary64.nan) (.number Binary64.nan) = true := by
  intro v w n
  have hv : v.WellFormed := by simp [v]
  have hw : w.WellFormed := by simp [w]
  have hn : n.WellFormed := by simp [n]
  have hvw : (v == w) = true := by decide
  have hnn : (n == n) = false := by decide
  obtain ⟨hbeq, hsimilar, hself, hsame⟩ := partialEquivalence_beq_same
  have hwv : (w == v) = true := hbeq.symm hv hw hvw
  have hvv : (v == v) = true := hbeq.trans hv hw hv hvw hwv
  have hnan : same (.number Binary64.nan) (.number Binary64.nan) = true := by decide
  refine ⟨⟨hv, hw, hn⟩, hvw, hwv, hvv, (hsimilar v w hv hw).mp hvw, (hself v hv).mp hvv, ?_, ?_⟩
  · intro h
    rw [← hself n hn, hnn] at h
    cases h
  · exact hsame.trans (wellFormed_number _) (wellFormed_number _) (wellFormed_number _) hnan hnan

end RecordQuery.Value

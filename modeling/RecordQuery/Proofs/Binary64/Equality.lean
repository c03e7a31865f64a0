import RecordQuery.Binary64.Basic

/-!
# Equality of doubles

The equality of doubles, `x == y`, is that of numbers: it has no NaN on either side, the two zeros
are equal, and all other doubles are equal only to themselves.

* `beq_eq_true_iff`: this description, on the unpacked form.
* `beq_comm`, `beq_trans`, `beq_self`: a partial equivalence, reflexive exactly off NaN.
* `agree`: the same with all NaN equal to each other, which is an equivalence.
-/

namespace RecordQuery.Binary64

open Float.Model (UnpackedFloat)

/-- Whether an unpacked double is a zero of either sign. -/
def IsZero : UnpackedFloat → Prop
  | .zero _ => True
  | _ => False

theorem sign_compare_eq_iff (s t : UnpackedFloat.Sign) : compare s t = .eq ↔ s = t := by
  cases s <;> cases t <;> simp [compare]

theorem finite_compare_finite (s t : UnpackedFloat.Sign) (m n : Nat) (d e : Int) (hm : 0 < m)
    (hn : 0 < n) :
    (UnpackedFloat.finite s m d hm).compare (.finite t n e hn) = some .eq ↔
      UnpackedFloat.finite s m d hm = .finite t n e hn := by
  -- exponents are compared before mantissas
  have magnitude : (compare d e).then (compare m n) = .eq ↔ m = n ∧ d = e := by simp [and_comm]
  rw [UnpackedFloat.finite.injEq]
  cases s <;> cases t
  · show some _ = some _ ↔ _
    rw [Option.some.injEq, Ordering.swap_eq_eq, magnitude, eq_self, true_and]
  · exact ⟨fun h => (by cases h), fun h => (by cases h.1)⟩
  · exact ⟨fun h => (by cases h), fun h => (by cases h.1)⟩
  · show some _ = some _ ↔ _
    rw [Option.some.injEq, magnitude, eq_self, true_and]

theorem compare_eq_some_eq_iff (x y : UnpackedFloat) :
    x.compare y = some .eq ↔ x ≠ .notANumber ∧ (x = y ∨ IsZero x ∧ IsZero y) := by
  -- doubles of two kinds are not equal, whatever their signs
  have apart : ∀ {x y : UnpackedFloat}, x.compare y ≠ some .eq → x ≠ y → ¬(IsZero x ∧ IsZero y) →
      (x.compare y = some .eq ↔ x ≠ .notANumber ∧ (x = y ∨ IsZero x ∧ IsZero y)) := by
    intro x y hc hne hz
    exact ⟨fun h => absurd h hc, fun h => h.2.elim (absurd · hne) (absurd · hz)⟩
  cases x with
  | notANumber => exact ⟨fun h => (by cases h), fun h => absurd rfl h.1⟩
  | zero s =>
    cases y with
    | zero t => exact ⟨fun _ => ⟨(by rintro ⟨⟩), Or.inr ⟨trivial, trivial⟩⟩, fun _ => rfl⟩
    | finite t _ _ _ => cases t <;> exact apart (by rintro ⟨⟩) (by rintro ⟨⟩) fun h => h.2
    | infinity t => cases t <;> exact apart (by rintro ⟨⟩) (by rintro ⟨⟩) fun h => h.2
    | notANumber => exact apart (by rintro ⟨⟩) (by rintro ⟨⟩) fun h => h.2
  | infinity s =>
    cases y with
    | infinity t =>
      show some (compare s t) = some .eq ↔ _
      rw [Option.some.injEq, sign_compare_eq_iff]
      refine ⟨fun h => ⟨(by rintro ⟨⟩), Or.inl (congrArg _ h)⟩, fun h => ?_⟩
      rcases h.2 with h | h
      · exact UnpackedFloat.infinity.inj h
      · exact h.1.elim
    | _ => cases s <;> exact apart (by rintro ⟨⟩) (by rintro ⟨⟩) fun h => h.1
  | finite s m d hm =>
    cases y with
    | finite t n e hn =>
      rw [finite_compare_finite]
      exact ⟨fun h => ⟨(by rintro ⟨⟩), Or.inl h⟩, fun h => h.2.elim id fun hz => hz.1.elim⟩
    | infinity t => cases s <;> cases t <;> exact apart (by rintro ⟨⟩) (by rintro ⟨⟩) fun h => h.1
    | _ => cases s <;> exact apart (by rintro ⟨⟩) (by rintro ⟨⟩) fun h => h.1

theorem beq_eq_true_iff (x y : Float) :
    (x == y) = true ↔ x.toModel.unpack ≠ .notANumber ∧
      (x.toModel.unpack = y.toModel.unpack ∨
        IsZero x.toModel.unpack ∧ IsZero y.toModel.unpack) := by
  rw [← compare_eq_some_eq_iff]
  show (x.toModel.unpack.compare y.toModel.unpack == some .eq) = true ↔ _
  exact beq_iff_eq

theorem isNaN_eq_true_iff (x : Float) : x.isNaN = true ↔ x.toModel.unpack = .notANumber := by
  show x.toModel.unpack.isNaN = true ↔ _
  cases x.toModel.unpack with
  | notANumber => exact ⟨fun _ => rfl, fun _ => rfl⟩
  | _ => exact ⟨fun h => (by cases h), fun h => (by cases h)⟩

theorem beq_comm (x y : Float) : (x == y) = (y == x) := by
  have key : ∀ {a b : Float}, (a == b) = true → (b == a) = true := by
    intro a b h
    rw [beq_eq_true_iff] at h ⊢
    obtain ⟨hn, he | ⟨ha, hb⟩⟩ := h
    · exact ⟨he ▸ hn, Or.inl he.symm⟩
    · exact ⟨fun hb' => by rw [hb'] at hb; exact hb, Or.inr ⟨hb, ha⟩⟩
  exact Bool.eq_iff_iff.mpr ⟨key, key⟩

theorem beq_trans {x y z : Float} (hxy : (x == y) = true) (hyz : (y == z) = true) :
    (x == z) = true := by
  rw [beq_eq_true_iff] at *
  refine ⟨hxy.1, ?_⟩
  rcases hxy.2 with he | ⟨hx, hy⟩
  · rw [he]; exact hyz.2
  · rcases hyz.2 with he | ⟨_, hz⟩
    · exact Or.inr ⟨hx, he ▸ hy⟩
    · exact Or.inr ⟨hx, hz⟩

theorem beq_self (x : Float) : (x == x) = !x.isNaN := by
  rw [Bool.eq_iff_iff, beq_eq_true_iff, Bool.not_eq_true', ← Bool.not_eq_true, isNaN_eq_true_iff]
  exact ⟨fun h => h.1, fun h => ⟨h, Or.inl rfl⟩⟩

theorem beq_self_of_isNaN_eq_false {x : Float} (h : x.isNaN = false) : (x == x) = true := by
  rw [beq_self, h, Bool.not_false]

theorem beq_eq_false_of_isNaN {x : Float} (h : x.isNaN = true) (y : Float) : (x == y) = false := by
  rw [← Bool.not_eq_true, beq_eq_true_iff]
  exact fun hb => hb.1 ((isNaN_eq_true_iff x).mp h)

/-! ### NaN counted equal to NaN -/

/-- Whether two doubles are equal or both NaN. -/
def agree (x y : Float) : Bool := x == y || (x.isNaN && y.isNaN)

theorem agree_of_beq {x y : Float} (h : (x == y) = true) : agree x y = true := by
  rw [agree, h, Bool.true_or]

theorem agree_refl (x : Float) : agree x x = true := by
  rw [agree, beq_self, Bool.and_self]
  cases x.isNaN <;> rfl

theorem agree_trans {x y z : Float} (hxy : agree x y = true) (hyz : agree y z = true) :
    agree x z = true := by
  simp only [agree, Bool.or_eq_true, Bool.and_eq_true] at *
  rcases hxy with hxy | ⟨hx, hy⟩
  · rcases hyz with hyz | ⟨hy, _⟩
    · exact Or.inl (beq_trans hxy hyz)
    · rw [beq_comm, beq_eq_false_of_isNaN hy] at hxy
      exact absurd hxy (by decide)
  · rcases hyz with hyz | ⟨_, hz⟩
    · rw [beq_eq_false_of_isNaN hy] at hyz
      exact absurd hyz (by decide)
    · exact Or.inr ⟨hx, hz⟩

end RecordQuery.Binary64

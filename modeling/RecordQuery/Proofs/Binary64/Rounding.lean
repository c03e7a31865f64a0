import RecordQuery.Proofs.Binary64.Integer

/-!
# Large integers as doubles

A natural number of more than fifty-three digits is rounded to one that has zeros at its end, or to
infinity.  In both cases the digits that are cut off decide, and of two doubles that are equally
near the one with an even mantissa is taken.

* `shiftRight_succ`: what is kept of the digits that are cut off.
* `roundWithAccuracy_large`: the mantissa and the exponent of a large number.
* `exists_integer?_ofNat`, `parts_ofNat_overflow`: a number is rounded to an integer, or, from
  `overflowBound` on, to infinity.
-/

namespace RecordQuery.Binary64

open Float.Model (UnpackedFloat Format totalExponent)
open Float.Model.UnpackedFloat (ExtendedMantissa Accuracy Sign roundWithAccuracy shiftToExponent
  shiftToTargetExponent)

/-- Halfway between the greatest double and the power of two behind it; from there on numbers are
rounded to infinity. -/
def overflowBound : Nat := 2 ^ 1024 - 2 ^ 970

theorem two_pow_le_overflowBound : 2 ^ 1023 ≤ overflowBound := by
  have hle : 2 ^ 970 ≤ 2 ^ 1023 := pow_le_pow_right₀ (by decide) (by decide)
  have hdouble : 2 ^ 1024 = 2 ^ 1023 + 2 ^ 1023 := by rw [pow_succ, Nat.mul_two]
  rw [overflowBound, hdouble]
  exact Nat.le_sub_of_add_le (Nat.add_le_add_left hle _)

theorem lt_overflowBound {n : Nat} (hn : n.log2 < 53) : n < overflowBound := by
  have hlow : (2 : Nat) ^ 53 ≤ 2 ^ 1023 := pow_le_pow_right₀ (by decide) (by decide)
  exact (log2_lt_iff.mp hn).trans_le (hlow.trans two_pow_le_overflowBound)

/-! ### Digits that are cut off -/

/-- Of the digits cut off the first one is kept, and whether there are others. -/
theorem shiftRight_succ (n k : Nat) :
    ExtendedMantissa.ofMantissaAndAccuracy n .exact >>> (k + 1) =
      { mantissa := n / 2 ^ (k + 1)
        roundBit := n / 2 ^ k % 2 != 0
        stickyBit := n % 2 ^ k != 0 } := by
  show (k + 1).repeat ExtendedMantissa.shiftRightOne _ = _
  induction k with
  | zero =>
    simp [Nat.repeat, ExtendedMantissa.shiftRightOne, ExtendedMantissa.ofMantissaAndAccuracy,
      Nat.mod_one]
  | succ k ih =>
    rw [Nat.repeat, ih, ExtendedMantissa.shiftRightOne]
    have hmantissa : n / 2 ^ (k + 1) / 2 = n / 2 ^ (k + 1 + 1) := by
      rw [Nat.div_div_eq_div_mul, ← pow_succ]
    have hsticky : (n / 2 ^ k % 2 != 0 || n % 2 ^ k != 0) = (n % 2 ^ (k + 1) != 0) := by
      rw [Nat.mod_pow_succ]
      have hpow := Nat.two_pow_pos k
      rcases Nat.mod_two_eq_zero_or_one (n / 2 ^ k) with h | h
      · simp [h]
      · simp [h]
    dsimp only
    rw [hmantissa, hsticky]

/-- The mantissa that is left of a number when its last digits are rounded off. -/
def roundOff (n k : Nat) : Nat :=
  (ExtendedMantissa.ofMantissaAndAccuracy n .exact >>> k).roundedMantissa

/-- A mantissa is rounded up if more than one half is cut off, or one half of an odd one. -/
theorem roundedMantissa_eq (em : ExtendedMantissa) :
    em.roundedMantissa = em.mantissa +
      if em.roundBit = true ∧ (em.stickyBit = true ∨ em.mantissa % 2 = 1) then 1 else 0 := by
  obtain ⟨mantissa, roundBit, stickyBit⟩ := em
  rcases Nat.mod_two_eq_zero_or_one mantissa with h | h <;> cases roundBit <;> cases stickyBit <;>
    simp [ExtendedMantissa.roundedMantissa, ExtendedMantissa.accuracy,
      Accuracy.roundToNearestEven, h]

theorem roundOff_succ (n k : Nat) :
    roundOff n (k + 1) = n / 2 ^ (k + 1) +
      if n / 2 ^ k % 2 = 1 ∧ (n % 2 ^ k ≠ 0 ∨ n / 2 ^ (k + 1) % 2 = 1) then 1 else 0 := by
  rw [roundOff, shiftRight_succ, roundedMantissa_eq]
  simp only [bne_iff_ne, Nat.mod_two_ne_zero]

section

variable {n k : Nat} (hn : n.log2 = 53 + k)
include hn

theorem le_of_log2_eq : 2 ^ (53 + k) ≤ n ∧ n < 2 ^ (54 + k) := by
  have hne : n ≠ 0 := by
    rintro rfl
    simp at hn
    omega
  have := (Nat.log2_eq_iff hne).mp hn
  rwa [show 53 + k + 1 = 54 + k by omega] at this

theorem roundOff_bounds : 2 ^ 52 ≤ roundOff n (k + 1) ∧ roundOff n (k + 1) ≤ 2 ^ 53 := by
  obtain ⟨hlow, hhigh⟩ := le_of_log2_eq hn
  have hquotient : 2 ^ 52 ≤ n / 2 ^ (k + 1) ∧ n / 2 ^ (k + 1) < 2 ^ 53 := by
    rw [Nat.le_div_iff_mul_le (Nat.two_pow_pos _), Nat.div_lt_iff_lt_mul (Nat.two_pow_pos _),
      ← pow_add, ← pow_add]
    rw [show 52 + (k + 1) = 53 + k by omega, show 53 + (k + 1) = 54 + k by omega]
    exact ⟨hlow, hhigh⟩
  rw [roundOff_succ]
  split <;> omega

/-- A carry out of the fifty-three digits comes from the last quarter of a unit. -/
theorem roundOff_eq_iff : roundOff n (k + 1) = 2 ^ 53 ↔ 2 ^ (54 + k) - 2 ^ k ≤ n := by
  obtain ⟨hlow, hhigh⟩ := le_of_log2_eq hn
  have hfull : 2 ^ (54 + k) - 2 ^ k = (2 ^ 54 - 1) * 2 ^ k := by
    rw [pow_add, Nat.sub_mul, Nat.one_mul]
  have hhalf : n / 2 ^ (k + 1) = n / 2 ^ k / 2 := by
    rw [Nat.div_div_eq_div_mul, ← pow_succ]
  have hlt : n / 2 ^ k < 2 ^ 54 := by
    rw [Nat.div_lt_iff_lt_mul (Nat.two_pow_pos _), ← pow_add]
    exact hhigh
  rw [hfull, ← Nat.le_div_iff_mul_le (Nat.two_pow_pos _), roundOff_succ, hhalf]
  split <;> omega

end

/-! ### Rounding to doubles -/

theorem shiftRight_add (em : ExtendedMantissa) (j k : Nat) : em >>> (j + k) = em >>> j >>> k := by
  show (j + k).repeat ExtendedMantissa.shiftRightOne em =
    k.repeat ExtendedMantissa.shiftRightOne (j.repeat ExtendedMantissa.shiftRightOne em)
  induction k with
  | zero => rfl
  | succ k ih => rw [← Nat.add_assoc, Nat.repeat, ih, Nat.repeat]

/-- The first shift leaves fifty-three digits and what is to be rounded off. -/
theorem shiftToTargetExponent_large {n k : Nat} (hn : n.log2 = 53 + k) :
    shiftToTargetExponent Format.binary64 (n <<< 53) (-53) .exact =
      (ExtendedMantissa.ofMantissaAndAccuracy n .exact >>> (k + 1), (k : Int) + 1) := by
  have hpos : 0 < n := Nat.pos_of_ne_zero (by rintro rfl; simp at hn; omega)
  have htotal : totalExponent (n <<< 53) (-53) = 54 + k := by
    rw [totalExponent, log2_shiftLeft hpos, hn]
    omega
  have hamount : (max ((54 : Int) + k - 53) (-1074) - -53).toNat = 53 + (k + 1) := by omega
  rw [shiftToTargetExponent, targetExponent_eq, htotal, shiftToExponent, hamount, shiftRight_add,
    shiftRight_shiftLeft]
  exact Prod.ext rfl (by dsimp only; omega)

/-- The second one makes room for a carry. -/
theorem shiftToTargetExponent_rounded {r : Nat} (k : Nat) (hlow : 2 ^ 52 ≤ r) (hhigh : r ≤ 2 ^ 53) :
    shiftToTargetExponent Format.binary64 r ((k : Int) + 1) .exact =
      if r = 2 ^ 53 then (ExtendedMantissa.ofMantissaAndAccuracy (2 ^ 52) .exact, (k : Int) + 2)
      else (ExtendedMantissa.ofMantissaAndAccuracy r .exact, (k : Int) + 1) := by
  rw [shiftToTargetExponent, targetExponent_eq, totalExponent, shiftToExponent]
  split
  · next h =>
    have hamount :
        (max (((2 ^ 53 : Nat).log2 : Int) + 1 + (k + 1) - 53) (-1074) - (k + 1)).toNat = 1 := by
      rw [Nat.log2_two_pow]
      omega
    rw [h, hamount]
    exact Prod.ext rfl (by dsimp only; omega)
  · next h =>
    have hlog : r.log2 = 52 := (Nat.log2_eq_iff (by omega)).mpr ⟨hlow, by omega⟩
    have hamount : (max ((r.log2 : Int) + 1 + (k + 1) - 53) (-1074) - (k + 1)).toNat = 0 := by
      rw [hlog]
      omega
    rw [hamount]
    exact Prod.ext rfl (by dsimp only; omega)

theorem roundWithAccuracy_large (s : Sign) {n k : Nat} (hn : n.log2 = 53 + k) :
    ∃ (m : Nat) (hm : 0 < m) (e : Int),
      roundWithAccuracy Format.binary64 s (n <<< 53) (-53) .exact = .finite s m e hm ∧
        m.log2 = 52 ∧ (e = k + 1 ∧ roundOff n (k + 1) ≠ 2 ^ 53 ∨
          e = k + 2 ∧ roundOff n (k + 1) = 2 ^ 53) := by
  obtain ⟨hlow, hhigh⟩ := roundOff_bounds hn
  have hrounded := shiftToTargetExponent_rounded k hlow hhigh
  unfold roundWithAccuracy
  rw [shiftToTargetExponent_large hn]
  dsimp only
  rw [show (ExtendedMantissa.ofMantissaAndAccuracy n .exact >>> (k + 1)).roundedMantissa =
    roundOff n (k + 1) from rfl, hrounded]
  by_cases h : roundOff n (k + 1) = 2 ^ 53
  · rw [if_pos h]
    exact ⟨2 ^ 52, by decide, k + 2, rfl, by decide, .inr ⟨rfl, h⟩⟩
  · have hne : roundOff n (k + 1) ≠ 0 := by omega
    rw [if_neg h]
    have hlog : (roundOff n (k + 1)).log2 = 52 :=
      (Nat.log2_eq_iff (by omega)).mpr ⟨hlow, by omega⟩
    exact ⟨roundOff n (k + 1), Nat.pos_of_ne_zero hne, k + 1, dif_neg hne, hlog, .inl ⟨rfl, h⟩⟩

theorem toModel_ofNat {n : Nat} (hn : 53 ≤ n.log2) :
    (ofNat n).toModel = Float.Model.pack
      (roundWithAccuracy Format.binary64 .positive (n <<< 53) (-53) .exact) := by
  have hlarge : ¬ (n < 2 ^ 53 ∧ 0 ≤ 22) := fun h =>
    absurd (log2_lt_iff.mpr h.1) (by omega)
  have hne : n ≠ 0 := by rintro rfl; simp at hn
  have hmodel : ofNat n = ⟨Float.Model.ofScientific n 0⟩ := by
    show Float.ofScientific n false 0 = _
    unfold Float.ofScientific
    rw [dif_neg hlarge]
    rfl
  rw [hmodel]
  show Float.Model.pack (UnpackedFloat.ofScientific Format.binary64 n 0) = _
  unfold UnpackedFloat.ofScientific
  have hsmall : ¬ (0 : Int) < -(2 ^ 11 + (n.log2 : Int)) := by omega
  rw [dif_neg hne, if_neg (by decide), if_neg hsmall, if_pos (le_refl _)]
  show Float.Model.pack
    (roundWithAccuracy Format.binary64 .positive (n <<< 53 * 1) (-53) .exact) = _
  rw [Nat.mul_one]

/-! ### Overflow -/

theorem unpack_pack_overflow (s : Sign) {m : Nat} {e : Int} (hpos : 0 < m) (he : 972 ≤ e) :
    (Float.Model.pack (.finite s m e hpos)).unpack = .infinity s := by
  have hpack : Float.Model.pack (.finite s m e hpos) = Float.Model.pack (.infinity s) := by
    have hbiased : 2 ^ Format.binary64.exponentBits ≤ (e + (Format.binary64.exponentBias : Int) +
        (Format.binary64.mantissaBitsWithoutImplicit : Int)).toNat + 1 := by
      show 2048 ≤ (e + 1023 + 52).toNat + 1
      omega
    have hbits : UnpackedFloat.pack Format.binary64 (.finite s m e hpos) =
        UnpackedFloat.pack Format.binary64 (.infinity s) := if_pos hbiased
    simp only [Float.Model.pack, hbits]
  rw [hpack]
  cases s <;> rfl

theorem parts_ofNat_large {n : Nat} (hn : 53 ≤ n.log2) :
    (n < overflowBound → ∃ m e, parts (ofNat n) = .finite false m e ∧ 0 ≤ e) ∧
      (overflowBound ≤ n → parts (ofNat n) = .infinite false) := by
  obtain ⟨k, hk⟩ : ∃ k, n.log2 = 53 + k := ⟨n.log2 - 53, by omega⟩
  have hne : n ≠ 0 := by rintro rfl; simp at hn
  obtain ⟨m, hm, e, hround, hlog, hexp⟩ := roundWithAccuracy_large .positive hk
  rw [roundOff_eq_iff hk, Ne, roundOff_eq_iff hk] at hexp
  have hcarry : k = 970 → 2 ^ (54 + k) - 2 ^ k = overflowBound := fun hk =>
    hk ▸ congrArg (fun i => 2 ^ i - 2 ^ 970) (show 54 + 970 = 1024 from rfl)
  rw [parts_eq_partsOf, toModel_ofNat hn, hround]
  constructor
  · intro hlt
    have hk' : k ≤ 970 := by
      have := (Nat.log2_lt hne).mpr (hlt.trans_le (Nat.sub_le (2 ^ 1024) (2 ^ 970)))
      omega
    have he : e ≤ 971 := by
      rcases hexp with ⟨rfl, -⟩ | ⟨rfl, hle⟩
      · omega
      · by_contra he
        rw [hcarry (by omega)] at hle
        omega
    rw [unpack_pack_normal .positive hm hlog (by omega) he]
    exact ⟨m, e, rfl, by omega⟩
  · intro hle
    have hk' : 970 ≤ k := by
      have := (Nat.le_log2 hne).mpr (two_pow_le_overflowBound.trans hle)
      omega
    have he : 972 ≤ e := by
      rcases hexp with ⟨rfl, hlt⟩ | ⟨rfl, -⟩
      · by_contra he
        rw [hcarry (by omega)] at hlt
        exact hlt hle
      · omega
    rw [unpack_pack_overflow .positive hm he]
    rfl

/-- **A natural number is converted to an integer**, unless it is so large that it is converted to
infinity. -/
theorem integer?_ofNat_iff (n : Nat) :
    (∃ k : Nat, integer? (ofNat n) = some (k : Int)) ↔ n < overflowBound := by
  by_cases hn : n.log2 < 53
  · exact iff_of_true ⟨n, integer?_ofInt (n := n) hn⟩ (lt_overflowBound hn)
  · obtain ⟨hfinite, hinfinite⟩ := parts_ofNat_large (Nat.not_lt.mp hn)
    constructor
    · rintro ⟨k, hk⟩
      by_contra hlt
      rw [integer?, hinfinite (Nat.not_lt.mp hlt)] at hk
      cases hk
    · intro hlt
      obtain ⟨m, e, hparts, he⟩ := hfinite hlt
      refine ⟨wholePart m e, ?_⟩
      rw [integer?, hparts]
      exact if_pos (by rw [isWhole, decide_eq_true he, Bool.true_or])

end RecordQuery.Binary64

import RecordQuery.Proofs.Binary64.Sum

/-!
# Doubles as rational numbers

A finite double is a rational number.  The functions that round it to integers are floors and
ceilings of that number, saturated where the integer has to fit a word.

* `rational?`, `towardsZero`: the number of a finite double, and its integer part.
* `truncated?_eq`: the integer part of a double is that of its number.
* `rational?_trunc`: so is the double that `trunc` makes of it.
* `toCount_of_rational?`, `toCount_of_infinite`: saturating conversion to a count.
* `lt_zero_iff`, `zero_lt_iff`, `one_le_of_le`: the comparisons with zero and one.
-/

namespace RecordQuery.Binary64

open Float.Model (UnpackedFloat)

/-- The number that a finite double is. -/
def rational? (x : Float) : Option ℚ :=
  match parts x with
  | .finite negative m e => some (if negative then -((m : ℚ) * 2 ^ e) else (m : ℚ) * 2 ^ e)
  | _ => none

/-- The integer part of a number, rounded towards zero. -/
def towardsZero (q : ℚ) : ℤ := if q < 0 then ⌈q⌉ else ⌊q⌋

/-- The greatest count that a word holds. -/
def greatestCount : Nat := 0xFFFFFFFFFFFFFFFF

theorem rational?_of_parts {x : Float} {negative : Bool} {m : Nat} {e : Int}
    (h : parts x = .finite negative m e) :
    rational? x = some (if negative then -((m : ℚ) * 2 ^ e) else (m : ℚ) * 2 ^ e) := by
  rw [rational?, h]

theorem parts_of_rational?_eq_none {x : Float} (h : rational? x = none) :
    parts x = .nan ∨ ∃ negative, parts x = .infinite negative := by
  rw [rational?] at h
  cases hparts : parts x with
  | nan => exact .inl rfl
  | infinite negative => exact .inr ⟨negative, rfl⟩
  | finite => rw [hparts] at h; cases h

theorem wholePart_eq_floor (m : Nat) (e : Int) : wholePart m e = ⌊(m : ℚ) * 2 ^ e⌋₊ := by
  rw [wholePart]
  split
  · next he =>
    obtain ⟨k, rfl⟩ := Int.eq_ofNat_of_zero_le he
    rw [Int.toNat_natCast, Nat.shiftLeft_eq, zpow_natCast]
    exact_mod_cast (Nat.floor_natCast (R := ℚ) (m * 2 ^ k)).symm
  · next he =>
    obtain ⟨k, rfl⟩ : ∃ k : Nat, e = -k := ⟨(-e).toNat, by omega⟩
    rw [neg_neg, Int.toNat_natCast, Nat.shiftRight_eq_div_pow, zpow_neg, zpow_natCast,
      ← div_eq_mul_inv]
    exact_mod_cast (Nat.floor_div_eq_div (K := ℚ) m (2 ^ k)).symm

theorem size_nonneg (m : Nat) (e : Int) : (0 : ℚ) ≤ m * 2 ^ e := by positivity

/-! ### Integer parts -/

theorem towardsZero_of_nonneg {q : ℚ} (h : 0 ≤ q) : towardsZero q = ⌊q⌋ := if_neg (not_lt.mpr h)

theorem towardsZero_neg {q : ℚ} (h : 0 ≤ q) : towardsZero (-q) = -⌊q⌋ := by
  rw [towardsZero]
  split
  · exact Int.ceil_neg
  · next hneg =>
    obtain rfl : q = 0 := by linarith
    simp

theorem towardsZero_intCast (n : ℤ) : towardsZero n = n := by
  rw [towardsZero, Int.ceil_intCast, Int.floor_intCast, ite_self]

theorem toNat_towardsZero (q : ℚ) : (towardsZero q).toNat = ⌊q⌋₊ := by
  rcases lt_or_ge q 0 with hneg | hpos
  · have hceil : ⌈q⌉ ≤ 0 := Int.ceil_le.mpr (by exact_mod_cast hneg.le)
    rw [towardsZero, if_pos hneg, Nat.floor_of_nonpos hneg.le, Int.toNat_of_nonpos hceil]
  · rw [towardsZero_of_nonneg hpos, Int.floor_toNat]

/-- **The integer part of a double is that of the number it is.** -/
theorem truncated?_eq (x : Float) : truncated? x = (rational? x).map towardsZero := by
  rw [truncated?, rational?]
  cases parts x with
  | nan => rfl
  | infinite => rfl
  | finite negative m e =>
    have hfloor := Int.natCast_floor_eq_floor (size_nonneg m e)
    rw [← wholePart_eq_floor] at hfloor
    cases negative
    · show some (wholePart m e : ℤ) = some (towardsZero _)
      rw [if_neg Bool.false_ne_true, towardsZero_of_nonneg (size_nonneg m e), hfloor]
    · show some (-(wholePart m e : ℤ)) = some (towardsZero _)
      rw [if_pos rfl, towardsZero_neg (size_nonneg m e), hfloor]

theorem rational?_of_integer? {x : Float} {n : Int} (h : integer? x = some n) :
    rational? x = some n := by
  obtain ⟨negative, m, e, hparts, hwhole, rfl⟩ := integer?_eq_some_iff.mp h
  have hsize : (m : ℚ) * 2 ^ e = wholePart m e := by
    rcases le_or_gt e 0 with he | he
    · have hm := eq_shiftLeft_of_isWhole he hwhole
      obtain ⟨k, rfl⟩ : ∃ k : Nat, e = -k := ⟨(-e).toNat, by omega⟩
      rw [neg_neg, Int.toNat_natCast, Nat.shiftLeft_eq] at hm
      have hcast : (m : ℚ) = wholePart m (-k) * 2 ^ k := by exact_mod_cast hm
      rw [hcast, zpow_neg, zpow_natCast, mul_assoc, mul_inv_cancel₀ (by positivity), mul_one]
    · obtain ⟨k, rfl⟩ := Int.eq_ofNat_of_zero_le he.le
      rw [wholePart, if_pos he.le, Int.toNat_natCast, Nat.shiftLeft_eq, zpow_natCast]
      push_cast
      rfl
  rw [rational?_of_parts hparts, hsize]
  cases negative <;> simp [signed]

theorem rational?_ofInt {n : Int} (hn : n.natAbs.log2 < 53) : rational? (ofInt n) = some n :=
  rational?_of_integer? (integer?_ofInt hn)

theorem log2_wholePart_lt {x : Float} {negative : Bool} {m : Nat} {e : Int}
    (h : parts x = .finite negative m e) (he : e < 0) : (wholePart m e).log2 < 53 := by
  have hm : m < 9007199254740992 := by
    rcases parts_canonical h with ⟨hm, -⟩ | ⟨hm, -⟩
    · rw [leadingBit] at hm
      omega
    · exact log2_lt_iff.mp (by omega)
  rw [wholePart, if_neg (by omega), log2_lt_iff, Nat.shiftRight_eq_div_pow]
  exact lt_of_le_of_lt (Nat.div_le_self _ _) hm

/-- A double between two integers is cut off to the double of an integer, unless nothing is left. -/
theorem trunc_eq_ofInt {x : Float} {negative : Bool} {m : Nat} {e : Int}
    (h : parts x = .finite negative m e) (hw : wholePart m e ≠ 0)
    (hlog : (wholePart m e).log2 < 53) : trunc x = ofInt (signed negative (wholePart m e)) := by
  rw [trunc, h]
  dsimp only
  split
  · next he =>
    -- there is nothing to cut off
    have hinteger : integer? x = some (signed negative (wholePart m e)) := by
      rw [integer?, h]
      dsimp only
      rw [if_pos (by rw [isWhole, decide_eq_true he, Bool.true_or])]
    have habs : (signed negative (wholePart m e)).natAbs = wholePart m e := by
      rw [signed]
      split <;> omega
    rw [ofInt_of_integer? hinteger (by rwa [habs]), positiveZero, if_neg]
    rw [beq_zero_iff]
    rintro ⟨sign, hzero⟩
    rw [h] at hzero
    cases hzero
    exact hw (by rw [wholePart_eq_floor]; simp)
  · cases negative
    · rfl
    · obtain ⟨n, hn⟩ := Nat.exists_eq_succ_of_ne_zero hw
      rw [hn]
      rfl

/-- **A double is cut off to the integer part of its number.** -/
theorem rational?_trunc (x : Float) :
    rational? (trunc x) = (rational? x).map fun q => (towardsZero q : ℚ) := by
  cases hparts : parts x with
  | nan => rw [trunc, hparts]; simp [rational?, hparts]
  | infinite negative => rw [trunc, hparts]; simp [rational?, hparts]
  | finite negative m e =>
    have htrunc := truncated?_eq x
    rw [rational?_of_parts hparts, truncated?, hparts, Option.map_some, Option.some.injEq] at htrunc
    rw [rational?_of_parts hparts, Option.map_some, ← htrunc]
    rcases le_or_gt 0 e with he | he
    · -- an integer, however large
      refine rational?_of_integer? ?_
      rw [trunc, hparts]
      dsimp only
      rw [if_pos he, integer?, hparts]
      dsimp only
      rw [if_pos (by rw [isWhole, decide_eq_true he, Bool.true_or])]
    · by_cases hw : wholePart m e = 0
      · rw [trunc, hparts]
        dsimp only
        rw [if_neg (not_le.mpr he), hw]
        cases negative
        · exact rational?_of_integer? (by decide)
        · exact rational?_of_integer? (by decide)
      · have hlog := log2_wholePart_lt hparts he
        rw [trunc_eq_ofInt hparts hw hlog]
        refine rational?_ofInt ?_
        rw [signed]
        split <;> simpa using hlog

theorem trunc_of_rational?_eq_none {x : Float} (h : rational? x = none) : trunc x = x := by
  rcases parts_of_rational?_eq_none h with hparts | ⟨negative, hparts⟩ <;> rw [trunc, hparts]

/-! ### Counts -/

/-- A double is converted to the floor of its number, from zero up to the greatest count. -/
theorem toCount_of_rational? {x : Float} {q : ℚ} (h : rational? x = some q) :
    toCount x = min ⌊q⌋₊ greatestCount := by
  rw [rational?] at h
  rw [toCount, clamped, greatestCount]
  cases hparts : parts x with
  | nan => rw [hparts] at h; cases h
  | infinite => rw [hparts] at h; cases h
  | finite negative m e =>
    rw [hparts] at h
    obtain rfl := Option.some.inj h
    cases negative
    · rw [if_neg Bool.false_ne_true, ← wholePart_eq_floor]
      show (clampInt 0 0xFFFFFFFFFFFFFFFF (wholePart m e)).toNat = _
      rw [clampInt]
      split
      · omega
      · split <;> omega
    · rw [if_pos rfl, Nat.floor_of_nonpos (neg_nonpos.mpr (size_nonneg m e)), Nat.zero_min]
      show (clampInt 0 0xFFFFFFFFFFFFFFFF (-(wholePart m e : ℤ))).toNat = 0
      rw [clampInt]
      split
      · rfl
      · split <;> omega

theorem toCount_of_infinite {x : Float} {negative : Bool} (h : parts x = .infinite negative) :
    toCount x = if negative then 0 else greatestCount := by
  rw [toCount, clamped, h]
  cases negative <;> rfl

theorem toCount_of_integer? {x : Float} {n : Nat} (h : integer? x = some (n : ℤ)) :
    toCount x = min n greatestCount := by
  have hrational : rational? x = some (n : ℚ) := rational?_of_integer? h
  rw [toCount_of_rational? hrational, Nat.floor_natCast]

/-! ### Comparison with zero and one -/

theorem unpack_zero : (0.0 : Float).toModel.unpack = .zero .positive := rfl

theorem isNaN_iff (x : Float) : x.isNaN = true ↔ parts x = .nan := by
  rw [isNaN_eq_true_iff, parts_eq_partsOf]
  cases x.toModel.unpack <;> simp [partsOf]

theorem lt_zero_iff (x : Float) :
    x < 0.0 ↔ parts x = .infinite true ∨ ∃ m e, 0 < m ∧ parts x = .finite true m e := by
  rw [lt_iff, parts_eq_partsOf, unpack_zero]
  cases x.toModel.unpack with
  | notANumber => simp [UnpackedFloat.compare, partsOf]
  | infinity s => cases s <;> simp [UnpackedFloat.compare, partsOf, isMinus]
  | zero s => simp [UnpackedFloat.compare, partsOf]
  | finite s m e hm => cases s <;> simp [UnpackedFloat.compare, partsOf, isMinus, hm]

theorem zero_lt_iff (x : Float) :
    0.0 < x ↔ parts x = .infinite false ∨ ∃ m e, 0 < m ∧ parts x = .finite false m e := by
  rw [lt_iff, parts_eq_partsOf, unpack_zero]
  cases x.toModel.unpack with
  | notANumber => simp [UnpackedFloat.compare, partsOf]
  | infinity s => cases s <;> simp [UnpackedFloat.compare, partsOf, isMinus]
  | zero s => simp [UnpackedFloat.compare, partsOf]
  | finite s m e hm => cases s <;> simp [UnpackedFloat.compare, partsOf, isMinus, hm]

theorem zero_lt_iff_of_rational?_eq_none {x : Float} (h : rational? x = none) :
    0.0 < x ↔ parts x = .infinite false := by
  rw [zero_lt_iff]
  refine or_iff_left ?_
  rintro ⟨m, e, -, hparts⟩
  rw [rational?, hparts] at h
  cases h

theorem lt_zero_iff_of_rational? {x : Float} {q : ℚ} (h : rational? x = some q) :
    x < 0.0 ↔ q < 0 := by
  rw [lt_zero_iff]
  rw [rational?] at h
  cases hparts : parts x with
  | nan => rw [hparts] at h; cases h
  | infinite => rw [hparts] at h; cases h
  | finite negative m e =>
    rw [hparts] at h
    obtain rfl := Option.some.inj h
    have hpow : (0 : ℚ) < 2 ^ e := by positivity
    cases negative
    · rw [if_neg Bool.false_ne_true]
      refine iff_of_false ?_ (not_lt.mpr (size_nonneg m e))
      rintro (h | ⟨_, _, _, h⟩) <;> cases h
    · rw [if_pos rfl, neg_lt_zero, mul_pos_iff_of_pos_right hpow, Nat.cast_pos]
      constructor
      · rintro (h | ⟨_, _, hm, h⟩)
        · cases h
        · cases h
          exact hm
      · exact fun hm => .inr ⟨m, e, hm, rfl⟩

/-- A double from one on is the positive infinity or a number from one on. -/
theorem one_le_of_le {x : Float} (h : 1.0 ≤ x) :
    parts x = .infinite false ∨ ∃ q, rational? x = some q ∧ 1 ≤ q := by
  have hle : UnpackedFloat.le (.finite .positive (2 ^ 52) (-52) (by decide)) x.toModel.unpack =
      true := of_decide_eq_true (p := _ = true) h
  have hparts := parts_eq_partsOf x
  cases hu : x.toModel.unpack with
  | notANumber => rw [hu] at hle; cases hle
  | infinity s =>
    rw [hu] at hle hparts
    cases s with
    | negative => cases hle
    | positive => exact .inl hparts
  | zero s => rw [hu] at hle; cases hle
  | finite s m e hm =>
    rw [hu] at hle hparts
    cases s with
    | negative => cases hle
    | positive =>
      refine .inr ⟨_, rational?_of_parts hparts, ?_⟩
      have horder : ((compare (-52) e).then (compare (2 ^ 52) m)).isLE = true := hle
      rw [Ordering.isLE_then_iff_and, Int.isLE_compare, Int.compare_eq_lt,
        Nat.isLE_compare] at horder
      have hm : 2 ^ 52 ≤ m := by
        rcases parts_canonical hparts with ⟨-, rfl⟩ | ⟨hlog, -⟩
        · exact absurd horder.1 (by decide)
        · exact ((Nat.log2_eq_iff (by omega)).mp hlog).1
      have hmq : (2 : ℚ) ^ 52 ≤ m := by exact_mod_cast hm
      have heq : (2 : ℚ) ^ (-52 : ℤ) ≤ 2 ^ e := zpow_le_zpow_right₀ (by norm_num) horder.1
      calc (1 : ℚ) = 2 ^ 52 * 2 ^ (-52 : ℤ) := by norm_num
        _ ≤ m * 2 ^ e := mul_le_mul hmq heq (by positivity) (by positivity)

end RecordQuery.Binary64

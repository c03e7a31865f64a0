import RecordQuery.Proofs.Binary64.Parts

/-!
# Integers among the doubles

Every integer of at most fifty-three digits is a double, and conversion to doubles does not round
it.  It can be read off that double again, and a double with this integer as its value is the same
one, but for the sign of a zero.

* `roundWithAccuracy_shiftLeft`, `round_of_lt`: what fits a mantissa is rounded to itself.
* `unpack_ofNat`: so natural numbers of at most fifty-three digits are not rounded.
* `parts_ofInt`: the mantissa and the exponent of an integer.
* `integer?_ofInt`: the integer of the double of an integer.
* `integer?_eq_some_iff`: the doubles that are integers.
* `ofInt_of_integer?`: the double of the integer of a double.
* `positiveZero`: a double with its zeros taken for the positive one.
-/

namespace RecordQuery.Binary64

open Float.Model (UnpackedFloat Format totalExponent)
open Float.Model.UnpackedFloat (ExtendedMantissa Sign roundWithAccuracy shiftToExponent
  shiftToTargetExponent)

/-! ### Exact rounding -/

theorem log2_shiftLeft {m : Nat} (hm : 0 < m) (k : Nat) : (m <<< k).log2 = m.log2 + k := by
  induction k with
  | zero => rfl
  | succ k ih =>
    have hpos : 0 < m <<< k := by
      rw [Nat.shiftLeft_eq]
      exact Nat.mul_pos hm (Nat.two_pow_pos k)
    rw [Nat.shiftLeft_succ, Nat.log2_two_mul (Nat.ne_of_gt hpos), ih, Nat.add_assoc]

theorem totalExponent_shiftLeft {m : Nat} (hm : 0 < m) (k : Nat) (e : Int) :
    totalExponent (m <<< k) (e - k) = totalExponent m e := by
  rw [totalExponent, totalExponent, log2_shiftLeft hm]
  omega

theorem targetExponent_eq (e : Int) :
    Format.binary64.targetExponent e = max (e - 53) (-1074) := rfl

theorem shiftRight_shiftLeft (m k : Nat) :
    ExtendedMantissa.ofMantissaAndAccuracy (m <<< k) .exact >>> k =
      ExtendedMantissa.ofMantissaAndAccuracy m .exact := by
  show k.repeat ExtendedMantissa.shiftRightOne _ = _
  induction k generalizing m with
  | zero => rfl
  | succ k ih =>
    rw [Nat.shiftLeft_succ_inside, Nat.repeat, ih]
    simp [ExtendedMantissa.shiftRightOne, ExtendedMantissa.ofMantissaAndAccuracy]

/-- A mantissa of fifty-three digits with zeros behind it is rounded to itself. -/
theorem roundWithAccuracy_shiftLeft (s : Sign) {m : Nat} {e : Int} (hpos : 0 < m)
    (hm : m.log2 = 52) (he : -1074 ≤ e) (k : Nat) :
    roundWithAccuracy Format.binary64 s (m <<< k) (e - k) .exact = .finite s m e hpos := by
  have hshift : ∀ k : Nat, shiftToTargetExponent Format.binary64 (m <<< k) (e - k) .exact =
      (ExtendedMantissa.ofMantissaAndAccuracy m .exact, e) := by
    intro k
    have htarget : Format.binary64.targetExponent (totalExponent m e) = e := by
      rw [targetExponent_eq, totalExponent, hm]
      omega
    have hk : (e - (e - (k : Int))).toNat = k := by omega
    rw [shiftToTargetExponent, totalExponent_shiftLeft hpos, htarget, shiftToExponent, hk,
      shiftRight_shiftLeft, Int.sub_add_cancel]
  have hrounded : (ExtendedMantissa.ofMantissaAndAccuracy m .exact).roundedMantissa = m := rfl
  -- the second shift has nothing left to do
  have hagain := hshift 0
  rw [Nat.shiftLeft_zero, Int.natCast_zero, Int.sub_zero] at hagain
  unfold roundWithAccuracy
  rw [hshift k]
  dsimp only
  rw [hrounded, hagain]
  exact dif_neg (Nat.ne_of_gt hpos)

/-! ### Natural numbers -/

theorem log2_lt_iff {n : Nat} : n.log2 < 53 ↔ n < 9007199254740992 := by
  rcases Nat.eq_zero_or_pos n with rfl | hpos
  · exact ⟨fun _ => by decide, fun _ => by decide⟩
  · exact Nat.log2_lt (Nat.ne_of_gt hpos)

/-- The mantissa of a number of at most fifty-three digits. -/
def mantissa (n : Nat) : Nat := n <<< (52 - n.log2)

section

variable {n : Nat} (hpos : 0 < n) (hn : n.log2 < 53)
include hpos hn

theorem log2_mantissa : (mantissa n).log2 = 52 := by
  rw [mantissa, log2_shiftLeft hpos]
  omega

omit hn in
theorem mantissa_pos : 0 < mantissa n := by
  rw [mantissa, Nat.shiftLeft_eq]
  exact Nat.mul_pos hpos (Nat.two_pow_pos _)

/-- A number with all digits of its mantissa, unpacked. -/
def unpackedNat (s : Sign) : UnpackedFloat :=
  .finite s (mantissa n) ((n.log2 : Int) - 52) (mantissa_pos hpos)

/-- Numbers that fit the mantissa are rounded to themselves. -/
theorem round_of_lt (s : Sign) :
    UnpackedFloat.round Format.binary64 s n 0 = unpackedNat hpos s := by
  have htarget : Format.binary64.targetExponent (totalExponent n 0) = (n.log2 : Int) - 52 := by
    rw [targetExponent_eq, totalExponent]
    omega
  have hshift : (0 - ((n.log2 : Int) - 52)).toNat = 52 - n.log2 := by omega
  have hexp : (0 : Int) - (52 - n.log2 : Nat) = (n.log2 : Int) - 52 := by omega
  unfold UnpackedFloat.round UnpackedFloat.decreaseExponent
  dsimp only
  rw [htarget, hshift, hexp]
  have h := roundWithAccuracy_shiftLeft s (e := (n.log2 : Int) - 52) (mantissa_pos hpos)
    (log2_mantissa hpos hn) (by omega) 0
  rwa [Nat.shiftLeft_zero, Int.natCast_zero, Int.sub_zero] at h

theorem unpack_pack_unpackedNat (s : Sign) :
    (Float.Model.pack (unpackedNat hpos s)).unpack = unpackedNat hpos s :=
  unpack_pack_normal s (mantissa_pos hpos) (log2_mantissa hpos hn) (by omega) (by omega)

theorem unpack_toFloat : n.toUInt64.toFloat.toModel.unpack = unpackedNat hpos .positive := by
  have hword : n.toUInt64.toNat = n := by
    show (UInt64.ofNat n).toNat = n
    have := log2_lt_iff.mp hn
    rw [UInt64.toNat_ofNat', Nat.mod_eq_of_lt (by omega)]
  have hround : UnpackedFloat.ofUInt64 Format.binary64 n.toUInt64 = unpackedNat hpos .positive := by
    have hcompare : compare (n : Int) 0 = .gt := by
      rw [Int.compare_eq_gt]
      omega
    unfold UnpackedFloat.ofUInt64 UnpackedFloat.ofNat UnpackedFloat.ofInt UnpackedFloat.normalize
    rw [hword, hcompare]
    exact round_of_lt hpos hn .positive
  show (Float.Model.pack (UnpackedFloat.ofUInt64 Format.binary64 n.toUInt64)).unpack = _
  rw [hround, unpack_pack_unpackedNat hpos hn]

omit hpos in
/-- Small numbers are converted to doubles as words and multiplied by one. -/
theorem ofNat_eq_mul : ofNat n = n.toUInt64.toFloat * Float.ofBits 0x3FF0000000000000 := by
  unfold ofNat Float.ofNat
  show Float.ofScientific n false 0 = _
  unfold Float.ofScientific
  rw [dif_pos ⟨log2_lt_iff.mp hn, by omega⟩]
  rfl

/-- A natural number of at most fifty-three digits is converted without rounding. -/
theorem unpack_ofNat : (ofNat n).toModel.unpack = unpackedNat hpos .positive := by
  have hone : (Float.ofBits 0x3FF0000000000000).toModel.unpack =
      .finite .positive (2 ^ 52) (-52) (by decide) := rfl
  have hmul : UnpackedFloat.mul Format.binary64 n.toUInt64.toFloat.toModel.unpack
      (Float.ofBits 0x3FF0000000000000).toModel.unpack = unpackedNat hpos .positive := by
    rw [unpack_toFloat hpos hn, hone]
    show roundWithAccuracy Format.binary64 .positive (mantissa n * 2 ^ 52)
      ((n.log2 : Int) - 52 + -52) .exact = _
    rw [← Nat.shiftLeft_eq]
    exact roundWithAccuracy_shiftLeft .positive (mantissa_pos hpos) (log2_mantissa hpos hn)
      (by omega) 52
  rw [ofNat_eq_mul hn]
  show (Float.Model.pack (UnpackedFloat.mul Format.binary64 n.toUInt64.toFloat.toModel.unpack
      (Float.ofBits 0x3FF0000000000000).toModel.unpack)).unpack = _
  rw [hmul, unpack_pack_unpackedNat hpos hn]

end

/-! ### Integers -/

theorem ofInt_zero : ofInt 0 = 0.0 := rfl

theorem parts_zero : parts 0.0 = .finite false 0 (-1074) := by
  rw [parts_eq_partsOf]
  rfl

/-- The parts of an integer of at most fifty-three digits. -/
theorem parts_ofInt {n : Int} (hne : n ≠ 0) (hn : n.natAbs.log2 < 53) :
    parts (ofInt n) =
      .finite (decide (n < 0)) (mantissa n.natAbs) ((n.natAbs.log2 : Int) - 52) := by
  have hpos : 0 < n.natAbs := Int.natAbs_pos.mpr hne
  have hunpack := unpack_ofNat hpos hn
  rw [parts_eq_partsOf]
  cases n with
  | ofNat n =>
    have hsign : ¬ Int.ofNat n < 0 := Int.not_lt.mpr (Int.natCast_nonneg n)
    rw [decide_eq_false hsign]
    exact congrArg partsOf hunpack
  | negSucc n =>
    rw [decide_eq_true (Int.negSucc_lt_zero n)]
    show partsOf (Float.Model.pack (ofNat (n + 1)).toModel.unpack.neg).unpack = _
    rw [show (ofNat (n + 1)).toModel.unpack = _ from hunpack]
    exact congrArg partsOf (unpack_pack_unpackedNat hpos hn .negative)

theorem isWhole_shiftLeft (m k : Nat) : isWhole (m <<< k) (-k) = true := by
  rw [isWhole, Bool.or_eq_true, beq_iff_eq, Int.neg_neg, Int.toNat_natCast, Nat.shiftLeft_eq,
    Nat.shiftLeft_eq, Nat.one_mul, Nat.mul_mod_left]
  exact .inr rfl

theorem wholePart_shiftLeft (m k : Nat) : wholePart (m <<< k) (-k) = m := by
  rw [wholePart]
  split
  · next hk =>
    obtain rfl : k = 0 := by omega
    rfl
  · rw [Int.neg_neg, Int.toNat_natCast, Nat.shiftLeft_shiftRight]

/-- An integer of at most fifty-three digits is read off its double. -/
theorem integer?_ofInt {n : Int} (hn : n.natAbs.log2 < 53) : integer? (ofInt n) = some n := by
  by_cases hne : n = 0
  · rw [hne, ofInt_zero, integer?, parts_zero]
    rfl
  · have hexp : (n.natAbs.log2 : Int) - 52 = -((52 - n.natAbs.log2 : Nat) : Int) := by omega
    rw [integer?, parts_ofInt hne hn, mantissa, hexp]
    dsimp only
    rw [if_pos (isWhole_shiftLeft ..), wholePart_shiftLeft, signed]
    simp only [decide_eq_true_eq, Option.some.injEq]
    split <;> omega

/-! ### Doubles with an integer value -/

/-- The doubles that are integers are finite and whole. -/
theorem integer?_eq_some_iff {x : Float} {n : Int} : integer? x = some n ↔
    ∃ negative m e, parts x = .finite negative m e ∧ isWhole m e = true ∧
      n = signed negative (wholePart m e) := by
  rw [integer?]
  constructor
  · intro h
    split at h
    case h_2 => cases h
    case h_1 negative m e hparts =>
    split at h
    case isFalse => cases h
    case isTrue hwhole => exact ⟨negative, m, e, hparts, hwhole, (Option.some.inj h).symm⟩
  · rintro ⟨negative, m, e, hparts, hwhole, rfl⟩
    rw [hparts]
    exact if_pos hwhole

theorem eq_shiftLeft_of_isWhole {m : Nat} {e : Int} (he : e ≤ 0) (h : isWhole m e = true) :
    m = wholePart m e <<< (-e).toNat := by
  rw [isWhole, Bool.or_eq_true, decide_eq_true_eq, beq_iff_eq, Nat.shiftLeft_eq, Nat.one_mul] at h
  rw [wholePart]
  split
  · next h0 =>
    obtain rfl : e = 0 := by omega
    rfl
  · next h0 =>
    rw [Nat.shiftRight_eq_div_pow, Nat.shiftLeft_eq,
      Nat.div_mul_cancel (Nat.dvd_of_mod_eq_zero (h.resolve_left h0))]

theorem eq_zero_of_isWhole {m : Nat} {e : Int} (hm : m < leadingBit) (he : e ≤ -52)
    (h : isWhole m e = true) : m = 0 := by
  have hw := eq_shiftLeft_of_isWhole (by omega) h
  rw [Nat.shiftLeft_eq] at hw
  rcases Nat.eq_zero_or_pos (wholePart m e) with h0 | hpos
  · rw [hw, h0, Nat.zero_mul]
  · have hpow : leadingBit ≤ 2 ^ (-e).toNat :=
      Nat.pow_le_pow_right Nat.zero_lt_two (by omega : 52 ≤ (-e).toNat)
    have := Nat.mul_le_mul hpos hpow
    omega

theorem eq_mantissa_of_normal {m : Nat} {e : Int} (hm : m.log2 = 52) (h : isWhole m e = true)
    (hlt : (wholePart m e).log2 < 53) :
    0 < wholePart m e ∧ m = mantissa (wholePart m e) ∧ e = ((wholePart m e).log2 : Int) - 52 := by
  have hpos : 0 < m := Nat.pos_of_ne_zero (by rintro rfl; cases hm)
  have he : e ≤ 0 := by
    refine Int.not_lt.mp fun he => ?_
    have hw : wholePart m e = m <<< e.toNat := if_pos (by omega)
    rw [hw, log2_shiftLeft hpos] at hlt
    omega
  have hw := eq_shiftLeft_of_isWhole he h
  have hwpos : 0 < wholePart m e := by
    refine Nat.pos_of_ne_zero fun h0 => ?_
    rw [h0, Nat.zero_shiftLeft] at hw
    omega
  have hlog : (wholePart m e).log2 + (-e).toNat = 52 := by
    rw [← log2_shiftLeft hwpos, ← hw, hm]
  refine ⟨hwpos, ?_, by omega⟩
  rw [mantissa, show 52 - (wholePart m e).log2 = (-e).toNat by omega]
  exact hw

theorem parts_of_integer? {x : Float} {n : Int} (hx : integer? x = some n)
    (hn : n.natAbs.log2 < 53) :
    (n = 0 ∧ ∃ negative, parts x = .finite negative 0 (-1074)) ∨
      (n ≠ 0 ∧ parts x = parts (ofInt n)) := by
  obtain ⟨negative, m, e, hparts, hwhole, rfl⟩ := integer?_eq_some_iff.mp hx
  have habs : (signed negative (wholePart m e)).natAbs = wholePart m e := by
    rw [signed]
    split <;> omega
  rw [habs] at hn
  rcases parts_canonical hparts with ⟨hm, rfl⟩ | ⟨hm, -⟩
  · obtain rfl := eq_zero_of_isWhole hm (by decide) hwhole
    exact .inl ⟨by cases negative <;> rfl, negative, hparts⟩
  · obtain ⟨hpos, hmant, hexp⟩ := eq_mantissa_of_normal hm hwhole hn
    have hne : signed negative (wholePart m e) ≠ 0 := by
      rw [← Int.natAbs_pos, habs]
      exact hpos
    refine .inr ⟨hne, ?_⟩
    rw [hparts, parts_ofInt hne (by rwa [habs]), habs, ← hmant, ← hexp, signed]
    cases negative
    · rw [if_neg (by decide), decide_eq_false (by omega)]
    · rw [if_pos rfl, decide_eq_true (by omega)]

/-- A double with its zeros taken for the positive one. -/
def positiveZero (x : Float) : Float := if x == 0.0 then 0.0 else x

theorem positiveZero_beq {x : Float} (h : x.isNaN = false) : (positiveZero x == x) = true := by
  rw [positiveZero]
  split
  · next hzero => rw [beq_comm, hzero]
  · rw [beq_self, h]
    rfl

/-- A double that is an integer of at most fifty-three digits is the double of that integer, but for
the sign of zero. -/
theorem ofInt_of_integer? {x : Float} {n : Int} (hx : integer? x = some n)
    (hn : n.natAbs.log2 < 53) : ofInt n = positiveZero x := by
  rw [positiveZero]
  rcases parts_of_integer? hx hn with ⟨rfl, hzero⟩ | ⟨hne, hparts⟩
  · rw [if_pos ((beq_zero_iff x).mpr hzero), ofInt_zero]
  · have hnan : parts x ≠ .nan := by
      rw [hparts, parts_ofInt hne hn]
      rintro ⟨⟩
    have hnonzero : ¬ (x == 0.0) = true := by
      rw [beq_zero_iff]
      rintro ⟨negative, h⟩
      rw [integer?, h] at hx
      exact hne (by cases negative <;> exact (Option.some.inj hx).symm)
    rw [if_neg hnonzero, eq_of_parts_eq hparts hnan]

end RecordQuery.Binary64

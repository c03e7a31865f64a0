import RecordQuery.Proofs.Binary64.Comparison
import RecordQuery.Proofs.Binary64.Integer

/-!
# Sums of integers

The sum of two doubles that are integers of at most fifty-three digits is not rounded as long as it
has no more digits itself.  Where one of them is too large for that, its sign is that of the sum.

* `round_shiftLeft`, `normalize_shift`: an integer written with further binary places is rounded to
  itself.
* `ofInt_add_ofInt`: the sum of two integers.
* `not_pos_add`: a negative double that outweighs an integer leaves no positive sum.
-/

namespace RecordQuery.Binary64

open Float.Model (UnpackedFloat Format totalExponent)
open Float.Model.UnpackedFloat (Sign packComponents)

theorem unpack_add (x y : Float) : (x + y).toModel.unpack = (Float.Model.pack
    (UnpackedFloat.add Format.binary64 x.toModel.unpack y.toModel.unpack)).unpack := rfl

/-! ### Exact rounding of integers -/

def signOf (n : Int) : Sign := if n < 0 then .negative else .positive

theorem signOf_apply (n : Int) : (signOf n).apply n.natAbs = n := by
  rw [signOf]
  split
  · show -(n.natAbs : Int) = n
    omega
  · show (n.natAbs : Int) = n
    omega

theorem isMinus_signOf (n : Int) : isMinus (signOf n) = decide (n < 0) := by
  rw [signOf]
  split <;> simp [isMinus, *]

theorem unpack_ofInt {n : Int} (hne : n ≠ 0) (hn : n.natAbs.log2 < 53) :
    (ofInt n).toModel.unpack = unpackedNat (Int.natAbs_pos.mpr hne) (signOf n) := by
  have hparts := parts_ofInt hne hn
  rw [parts_eq_partsOf] at hparts
  refine partsOf_inj (by rw [hparts]; rintro ⟨⟩) ?_
  rw [hparts, unpackedNat, partsOf, isMinus_signOf]

/-- A number of at most fifty-three digits is rounded to itself, also with zeros behind the
point. -/
theorem round_shiftLeft {n : Nat} (hpos : 0 < n) (hn : n.log2 < 53) (s : Sign) (k : Nat) :
    UnpackedFloat.round Format.binary64 s (n <<< k) (-k) = unpackedNat hpos s := by
  have htotal : totalExponent (n <<< k) (-k) = totalExponent n 0 := by
    have h := totalExponent_shiftLeft hpos k 0
    rwa [Int.zero_sub] at h
  have htarget : Format.binary64.targetExponent (totalExponent (n <<< k) (-k)) =
      (n.log2 : Int) - 52 := by
    rw [htotal, targetExponent_eq, totalExponent]
    omega
  -- with the places that are added the number has all digits of its mantissa, and maybe zeros
  -- behind them
  obtain ⟨added, hadded⟩ : ∃ added, added = (-(k : Int) - ((n.log2 : Int) - 52)).toNat := ⟨_, rfl⟩
  obtain ⟨zeros, hzeros⟩ : ∃ zeros, k + added = 52 - n.log2 + zeros :=
    ⟨k + added - (52 - n.log2), by omega⟩
  have hmant : n <<< k <<< added = mantissa n <<< zeros := by
    rw [mantissa, ← Nat.shiftLeft_add, ← Nat.shiftLeft_add, hzeros]
  have hexp : -(k : Int) - added = (n.log2 : Int) - 52 - zeros := by omega
  unfold UnpackedFloat.round UnpackedFloat.decreaseExponent
  dsimp only
  rw [htarget, ← hadded, hmant, hexp]
  exact roundWithAccuracy_shiftLeft s (mantissa_pos hpos) (log2_mantissa hpos hn) (by omega) zeros

theorem normalize_shift {c : Int} (hc : c.natAbs.log2 < 53) (k : Nat) :
    UnpackedFloat.normalize Format.binary64 (c * 2 ^ k) (-k) .positive =
      (ofInt c).toModel.unpack := by
  have hpow : (0 : Int) < 2 ^ k := Int.pow_pos (by decide)
  have habs : (c.natAbs <<< k : Nat) = (c * 2 ^ k).natAbs := by
    rw [Nat.shiftLeft_eq, Int.natAbs_mul, Int.natAbs_pow]
    rfl
  rcases Int.lt_trichotomy c 0 with hneg | rfl | hpos
  · have hcompare : compare (c * 2 ^ k) 0 = .lt :=
      Int.compare_eq_lt.mpr (Int.mul_neg_of_neg_of_pos hneg hpow)
    rw [UnpackedFloat.normalize, hcompare, unpack_ofInt (Int.ne_of_lt hneg) hc, signOf, if_pos hneg]
    dsimp only
    rw [← round_shiftLeft (Int.natAbs_pos.mpr (Int.ne_of_lt hneg)) hc, habs]
    congr 1
    have := Int.mul_neg_of_neg_of_pos hneg hpow
    omega
  · rw [Int.zero_mul]
    rfl
  · have hcompare : compare (c * 2 ^ k) 0 = .gt := by
      rw [Int.compare_eq_gt]
      exact Int.mul_pos hpos hpow
    rw [UnpackedFloat.normalize, hcompare, unpack_ofInt (Int.ne_of_gt hpos) hc, signOf,
      if_neg (Int.not_lt.mpr (Int.le_of_lt hpos))]
    dsimp only
    rw [← round_shiftLeft (Int.natAbs_pos.mpr (Int.ne_of_gt hpos)) hc, habs]
    congr 1
    have := Int.mul_pos hpos hpow
    omega

/-! ### Sums -/

theorem eq_of_unpack_eq {x y : Float} (h : x.toModel.unpack = y.toModel.unpack) : x = y := by
  have hbits := (UnpackedFloat.unpack_inj_of_valid x.toModel.valid y.toModel.valid).mp h
  exact Float.toBits_inj.mp (UInt64.toBitVec_inj.mp hbits)

theorem mantissa_shiftLeft {n k : Nat} (hn : n.log2 < 53) (hk : 52 ≤ n.log2 + k) :
    mantissa n <<< ((n.log2 : Int) - 52 - -(k : Int)).toNat = n <<< k := by
  rw [mantissa, ← Nat.shiftLeft_add]
  congr 1
  omega

theorem apply_shiftLeft (c : Int) (k : Nat) : (signOf c).apply ↑(c.natAbs <<< k) = c * 2 ^ k := by
  have happly : ∀ (s : Sign) (m p : Int), s.apply (m * p) = s.apply m * p := by
    intro s m p
    cases s
    · exact (Int.neg_mul m p).symm
    · rfl
  rw [Nat.shiftLeft_eq, Int.natCast_mul, Int.natCast_pow, happly, signOf_apply]
  rfl

/-- The exact sum of two integers, written with as many places as the shorter one has. -/
theorem add_unpackedNat {a b : Int} (ha : a ≠ 0) (hb : b ≠ 0) (hal : a.natAbs.log2 < 53)
    (hbl : b.natAbs.log2 < 53) :
    ∃ k : Nat, UnpackedFloat.add Format.binary64
        (unpackedNat (Int.natAbs_pos.mpr ha) (signOf a))
        (unpackedNat (Int.natAbs_pos.mpr hb) (signOf b)) =
      UnpackedFloat.normalize Format.binary64 ((a + b) * 2 ^ k) (-k) .positive := by
  refine ⟨52 - min a.natAbs.log2 b.natAbs.log2, ?_⟩
  obtain ⟨k, hk⟩ : ∃ k, k = 52 - min a.natAbs.log2 b.natAbs.log2 := ⟨_, rfl⟩
  have hmin : min ((a.natAbs.log2 : Int) - 52) ((b.natAbs.log2 : Int) - 52) = -(k : Int) := by omega
  show UnpackedFloat.normalize Format.binary64
    ((signOf a).apply ↑(mantissa a.natAbs <<< ((a.natAbs.log2 : Int) - 52 -
        min ((a.natAbs.log2 : Int) - 52) ((b.natAbs.log2 : Int) - 52)).toNat) +
      (signOf b).apply ↑(mantissa b.natAbs <<< ((b.natAbs.log2 : Int) - 52 -
        min ((a.natAbs.log2 : Int) - 52) ((b.natAbs.log2 : Int) - 52)).toNat)) _ .positive = _
  rw [hmin, mantissa_shiftLeft hal (by omega), mantissa_shiftLeft hbl (by omega), apply_shiftLeft,
    apply_shiftLeft, ← Int.add_mul, hk]

theorem unpack_pack_ofInt {n : Int} (hn : n.natAbs.log2 < 53) :
    (Float.Model.pack (ofInt n).toModel.unpack).unpack = (ofInt n).toModel.unpack := by
  by_cases hne : n = 0
  · rw [hne]
    rfl
  · rw [unpack_ofInt hne hn, unpack_pack_unpackedNat (Int.natAbs_pos.mpr hne) hn]

/-- **The sum of two integers is exact** as long as it has at most fifty-three digits. -/
theorem ofInt_add_ofInt {a b : Int} (ha : a.natAbs.log2 < 53) (hb : b.natAbs.log2 < 53)
    (hab : (a + b).natAbs.log2 < 53) : ofInt a + ofInt b = ofInt (a + b) := by
  refine eq_of_unpack_eq ?_
  rw [unpack_add]
  by_cases ha0 : a = 0
  · rw [ha0, Int.zero_add, ofInt_zero]
    by_cases hb0 : b = 0
    · rw [hb0]
      rfl
    · rw [unpack_ofInt hb0 hb, show UnpackedFloat.add Format.binary64 (0.0 : Float).toModel.unpack
        (unpackedNat (Int.natAbs_pos.mpr hb0) (signOf b)) = unpackedNat _ (signOf b) from rfl,
        unpack_pack_unpackedNat _ hb]
  · by_cases hb0 : b = 0
    · rw [hb0, Int.add_zero, ofInt_zero, unpack_ofInt ha0 ha,
        show UnpackedFloat.add Format.binary64 (unpackedNat (Int.natAbs_pos.mpr ha0) (signOf a))
          (0.0 : Float).toModel.unpack = unpackedNat _ (signOf a) from rfl,
        unpack_pack_unpackedNat _ ha]
    · obtain ⟨k, hk⟩ := add_unpackedNat ha0 hb0 ha hb
      rw [unpack_ofInt ha0 ha, unpack_ofInt hb0 hb, hk, normalize_shift hab, unpack_pack_ofInt hab]

theorem ofInt_add_neg_zero {n : Int} (hn : n.natAbs.log2 < 53) : ofInt n + -ofNat 0 = ofInt n := by
  refine eq_of_unpack_eq ?_
  rw [unpack_add]
  by_cases hne : n = 0
  · rw [hne]
    rfl
  · rw [unpack_ofInt hne hn, show UnpackedFloat.add Format.binary64
      (unpackedNat (Int.natAbs_pos.mpr hne) (signOf n)) (-ofNat 0).toModel.unpack =
        unpackedNat _ (signOf n) from rfl, unpack_pack_unpackedNat _ hn]

/-! ### Sums that are not positive -/

theorem not_pos_packComponents (e : BitVec 11) (m : BitVec 52) :
    (UnpackedFloat.zero .positive).compare
      (UnpackedFloat.unpack Format.binary64 (packComponents Format.binary64 .negative e m)) ≠
        some .lt := by
  have hsign : Sign.ofBitVec (UnpackedFloat.unpackSign
      (packComponents Format.binary64 .negative e m)) = .negative := by
    rw [UnpackedFloat.unpackSign_packComponents, UnpackedFloat.Sign.ofBitVec_toBitVec]
  unfold UnpackedFloat.unpack
  dsimp only
  rw [hsign]
  split
  · split <;> simp [UnpackedFloat.compare]
  · split
    · split <;> simp [UnpackedFloat.compare]
    · simp [UnpackedFloat.compare]

/-- A zero or a finite double with the negative sign, unpacked. -/
def IsNegative : UnpackedFloat → Prop
  | .zero s => s = .negative
  | .finite s _ _ _ => s = .negative
  | _ => False

theorem not_pos_pack {u : UnpackedFloat} (h : IsNegative u) :
    (UnpackedFloat.zero .positive).compare (Float.Model.pack u).unpack ≠ some .lt := by
  show (UnpackedFloat.zero .positive).compare
    (UnpackedFloat.unpack Format.binary64 (UnpackedFloat.pack Format.binary64 u)) ≠ some .lt
  cases u with
  | notANumber => exact h.elim
  | infinity s => exact h.elim
  | zero s =>
    obtain rfl : s = .negative := h
    exact not_pos_packComponents _ _
  | finite s m e hm =>
    obtain rfl : s = .negative := h
    rw [UnpackedFloat.pack]
    dsimp only
    split
    · exact not_pos_packComponents _ _
    · split <;> exact not_pos_packComponents _ _

theorem isNegative_round (m : Nat) (e : Int) :
    IsNegative (UnpackedFloat.round Format.binary64 .negative m e) := by
  unfold UnpackedFloat.round Float.Model.UnpackedFloat.roundWithAccuracy
  dsimp only
  split <;> rfl

theorem isNegative_normalize {c : Int} (hc : c < 0) (e : Int) (s : Sign) :
    IsNegative (UnpackedFloat.normalize Format.binary64 c e s) := by
  rw [UnpackedFloat.normalize, Int.compare_eq_lt.mpr hc]
  exact isNegative_round _ _

theorem unpack_of_parts {x : Float} {negative : Bool} {m : Nat} {e : Int}
    (h : parts x = .finite negative m e) (hm : 0 < m) :
    x.toModel.unpack = .finite (if negative then .negative else .positive) m e hm := by
  rw [parts_eq_partsOf] at h
  refine partsOf_inj (by rw [h]; rintro ⟨⟩) ?_
  rw [h]
  cases negative <;> rfl

/-- A negative double that outweighs a natural number leaves no positive sum. -/
theorem not_pos_add {n m : Nat} {e : Int} (hn : n.log2 < 53) {x : Float}
    (hx : parts x = .finite true m e) (he : 0 ≤ e) (hlt : n < m <<< e.toNat) :
    ¬ (0.0 : Float) < ofNat n + x := by
  have hm : 0 < m := by
    refine Nat.pos_of_ne_zero ?_
    rintro rfl
    rw [Nat.zero_shiftLeft] at hlt
    exact Nat.not_lt_zero n hlt
  rw [lt_iff, unpack_add, unpack_of_parts hx hm]
  refine not_pos_pack ?_
  by_cases hzero : n = 0
  · rw [hzero]
    rfl
  · have hpos : 0 < n := Nat.pos_of_ne_zero hzero
    have hmin : min ((n.log2 : Int) - 52) e = (n.log2 : Int) - 52 := by omega
    have hshift : (e - ((n.log2 : Int) - 52)).toNat = e.toNat + (52 - n.log2) := by omega
    rw [unpack_ofNat hpos hn]
    show IsNegative (UnpackedFloat.normalize Format.binary64
      (↑(mantissa n <<< ((n.log2 : Int) - 52 - min ((n.log2 : Int) - 52) e).toNat) +
        -↑(m <<< (e - min ((n.log2 : Int) - 52) e).toNat)) _ .positive)
    refine isNegative_normalize ?_ _ _
    rw [hmin, Int.sub_self, hshift, Nat.shiftLeft_add, mantissa]
    have hless := Nat.mul_lt_mul_of_pos_right hlt (Nat.two_pow_pos (52 - n.log2))
    rw [← Nat.shiftLeft_eq, ← Nat.shiftLeft_eq] at hless
    show (↑(n <<< (52 - n.log2)) : Int) + -↑(m <<< e.toNat <<< (52 - n.log2)) < 0
    omega

theorem not_pos_add_infinite {n : Nat} (hn : n.log2 < 53) {x : Float}
    (hx : parts x = .infinite true) : ¬ (0.0 : Float) < ofNat n + x := by
  have hunpack : x.toModel.unpack = .infinity .negative := by
    rw [parts_eq_partsOf] at hx
    exact partsOf_inj (by rw [hx]; rintro ⟨⟩) hx
  have hsum : UnpackedFloat.add Format.binary64 (ofNat n).toModel.unpack (.infinity .negative) =
      .infinity .negative := by
    by_cases hzero : n = 0
    · rw [hzero]
      rfl
    · rw [unpack_ofNat (Nat.pos_of_ne_zero hzero) hn]
      rfl
  rw [lt_iff, unpack_add, hunpack, hsum]
  decide

end RecordQuery.Binary64

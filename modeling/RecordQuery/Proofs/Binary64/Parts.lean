import Mathlib
import RecordQuery.Proofs.Binary64.Equality

/-!
# The parts of doubles

The parts of a double are read from its bits, while arithmetic unpacks it, rounds and packs the
result. Both views agree, and a double other than NaN can be put together again from its parts.

* `parts_eq_partsOf`: the parts are those of the unpacked double.
* `eq_of_parts_eq`: a double other than NaN is determined by its parts.
* `parts_canonical`: mantissas of fifty-three digits, unless the exponent is the least one.
* `unpack_pack_normal`: packing keeps such mantissas as they are.
* `isFinite_iff`, `beq_zero_iff`: the finite doubles and the zeros by their parts.
-/

namespace RecordQuery.Binary64

open Float.Model (UnpackedFloat Format)
open Float.Model.UnpackedFloat (Sign packComponents unpackExponent unpackMantissa unpackSign)

/-! ### Parts and unpacked doubles -/

def isMinus : Sign → Bool
  | .negative => true
  | .positive => false

def partsOf : UnpackedFloat → Parts
  | .notANumber => .nan
  | .infinity s => .infinite (isMinus s)
  | .zero s => .finite (isMinus s) 0 (-1074)
  | .finite s m e _ => .finite (isMinus s) m e

theorem toNat_unpackExponent (b : BitVec 64) :
    (@unpackExponent Format.binary64 b).toNat = (b.toNat >>> 52) % 2048 := by
  simp [unpackExponent, BitVec.extractLsb_toNat]

theorem toNat_unpackMantissa (b : BitVec 64) :
    (@unpackMantissa Format.binary64 b).toNat = b.toNat % leadingBit := by
  simp [unpackMantissa, BitVec.extractLsb_toNat, leadingBit]

theorem isMinus_unpackSign (b : BitVec 64) :
    isMinus (Sign.ofBitVec (@unpackSign Format.binary64 b)) = decide (signBit ≤ b.toNat) := by
  have hb := b.isLt
  have hs : signBit = 2 ^ 63 := rfl
  have h : (@unpackSign Format.binary64 b).toNat = b.toNat / 2 ^ 63 := by
    simp [unpackSign, BitVec.extractLsb_toNat, Nat.shiftRight_eq_div_pow]
    omega
  rw [Sign.ofBitVec]
  split
  · next hz =>
    rw [hz, BitVec.toNat_ofNat] at h
    simp [isMinus, hs]
    omega
  · next hz =>
    rw [← BitVec.toNat_inj, h, BitVec.toNat_ofNat] at hz
    simp [isMinus, hs]
    omega

theorem toNat_leading_append (m : BitVec 52) : (1#1 ++ m).toNat = m.toNat + leadingBit := by
  rw [BitVec.toNat_append, ← Nat.shiftLeft_add_eq_or_of_lt m.isLt, Nat.add_comm]
  rfl

theorem toNat_allOnes : (-1#11 : BitVec 11).toNat = 2047 := by decide

theorem parts_eq_partsOf (x : Float) : parts x = partsOf x.toModel.unpack := by
  show parts x = partsOf (UnpackedFloat.unpack Format.binary64 x.toBits.toBitVec)
  obtain ⟨b, hb⟩ : ∃ b : BitVec 64, b = x.toBits.toBitVec := ⟨_, rfl⟩
  have hbits : x.toBits.toNat = b.toNat := by rw [hb]; rfl
  have hbias : Format.binary64.exponentBias = 1023 := rfl
  -- both sides branch on the same exponent and mantissa, here as numbers and there as bits
  rw [← hb, parts, hbits, ← isMinus_unpackSign, ← toNat_unpackExponent, ← toNat_unpackMantissa]
  unfold UnpackedFloat.unpack
  simp only [← BitVec.toNat_inj, toNat_allOnes, BitVec.toNat_ofNat, Nat.zero_mod]
  split
  · split <;> rfl
  · split
    · next he =>
      split
      · next hm => rw [hm]; rfl
      · rw [he]; rfl
    · show _ = Parts.finite _ (1#1 ++ @unpackMantissa Format.binary64 b).toNat _
      rw [toNat_leading_append, hbias]
      rfl

/-! ### Doubles with the same parts -/

theorem isMinus_inj {s t : Sign} : isMinus s = isMinus t ↔ s = t := by
  cases s <;> cases t <;> simp [isMinus]

theorem partsOf_inj {u v : UnpackedFloat} (hu : partsOf u ≠ .nan) (h : partsOf u = partsOf v) :
    u = v := by
  cases u with
  | notANumber => exact absurd rfl hu
  | infinity s =>
    cases v with
    | infinity t => rw [isMinus_inj.mp (Parts.infinite.inj h)]
    | _ => cases h
  | zero s =>
    cases v with
    | zero t => rw [isMinus_inj.mp (Parts.finite.inj h).1]
    | finite t n f hn =>
      obtain rfl : 0 = n := (Parts.finite.inj h).2.1
      exact absurd hn (Nat.lt_irrefl 0)
    | _ => cases h
  | finite s m e hm =>
    cases v with
    | zero t =>
      obtain rfl : m = 0 := (Parts.finite.inj h).2.1
      exact absurd hm (Nat.lt_irrefl 0)
    | finite t n f hn =>
      obtain ⟨hs, rfl, rfl⟩ := Parts.finite.inj h
      rw [isMinus_inj.mp hs]
    | _ => cases h

/-- A double other than NaN is determined by its parts. -/
theorem eq_of_parts_eq {x y : Float} (h : parts x = parts y) (hx : parts x ≠ .nan) : x = y := by
  rw [parts_eq_partsOf] at h hx
  rw [parts_eq_partsOf] at h
  have hunpack := partsOf_inj hx h
  have hbits := (UnpackedFloat.unpack_inj_of_valid x.toModel.valid y.toModel.valid).mp hunpack
  exact Float.toBits_inj.mp (UInt64.toBitVec_inj.mp hbits)

/-- Mantissas have as many digits as the exponent leaves room for. -/
theorem parts_canonical {x : Float} {negative : Bool} {m : Nat} {e : Int}
    (h : parts x = .finite negative m e) :
    m < leadingBit ∧ e = -1074 ∨ m.log2 = 52 ∧ -1074 ≤ e := by
  have hl : leadingBit = 2 ^ 52 := rfl
  have hfraction : x.toBits.toNat % leadingBit < leadingBit := Nat.mod_lt _ (by decide)
  rw [parts] at h
  split at h
  · split at h <;> cases h
  · split at h
    · cases h
      exact .inl ⟨hfraction, rfl⟩
    · cases h
      refine .inr ⟨?_, by omega⟩
      rw [Nat.log2_eq_iff (by omega)]
      omega

/-! ### Packing -/

/-- A mantissa of fifty-three digits is packed without loss. -/
theorem unpack_pack_normal (s : Sign) {m : Nat} {e : Int} (hpos : 0 < m) (hm : m.log2 = 52)
    (hlow : -1074 ≤ e) (hhigh : e ≤ 971) :
    (Float.Model.pack (.finite s m e hpos)).unpack = .finite s m e hpos := by
  obtain ⟨biased, hbiased⟩ : ∃ biased : Nat, (biased : Int) = e + 1075 :=
    ⟨(e + 1075).toNat, by omega⟩
  have hexp : (BitVec.ofNat 11 biased).toNat = biased := by
    rw [BitVec.toNat_ofNat, Nat.mod_eq_of_lt (by omega)]
  have hones : BitVec.ofNat 11 biased ≠ -1#11 := by
    rw [ne_eq, ← BitVec.toNat_inj, hexp, toNat_allOnes]
    omega
  have hzero : BitVec.ofNat 11 biased ≠ 0#11 := by
    rw [ne_eq, ← BitVec.toNat_inj, hexp, BitVec.toNat_ofNat]
    omega
  have hmant : (1#1 ++ BitVec.ofNat 52 m).toNat = m := by
    obtain ⟨hlo, hhi⟩ := (Nat.log2_eq_iff (Nat.ne_of_gt hpos)).mp hm
    rw [toNat_leading_append, BitVec.toNat_ofNat, leadingBit]
    omega
  have hpack : UnpackedFloat.pack Format.binary64 (.finite s m e hpos) =
      packComponents Format.binary64 s (BitVec.ofNat 11 biased) (BitVec.ofNat 52 m) := by
    have hb : (e + (Format.binary64.exponentBias : Int) +
        (Format.binary64.mantissaBitsWithoutImplicit : Int)).toNat = biased := by
      show (e + 1023 + 52).toNat = biased
      omega
    rw [UnpackedFloat.pack]
    dsimp only
    rw [hb, hm, if_neg (by show ¬ 2048 ≤ biased + 1; omega),
      if_pos (show 52 + 1 = Format.binary64.mantissaBits from rfl)]
  show UnpackedFloat.unpack Format.binary64 (UnpackedFloat.pack Format.binary64 _) = _
  rw [hpack, UnpackedFloat.unpack]
  simp only [UnpackedFloat.unpackExponent_packComponents,
    UnpackedFloat.unpackMantissa_packComponents, UnpackedFloat.unpackSign_packComponents,
    UnpackedFloat.Sign.ofBitVec_toBitVec]
  rw [if_neg hones, if_neg hzero]
  congr 1
  show ((BitVec.ofNat 11 biased).toNat : Int) - (1023 + 52) = e
  omega

/-! ### Finite doubles and zeros -/

theorem isFinite_iff (x : Float) :
    x.isFinite = true ↔ ∃ negative m e, parts x = .finite negative m e := by
  rw [parts_eq_partsOf]
  show x.toModel.unpack.isFinite = true ↔ _
  cases x.toModel.unpack with
  | notANumber => exact ⟨fun h => (by cases h), fun ⟨_, _, _, h⟩ => (by cases h)⟩
  | infinity s => exact ⟨fun h => (by cases h), fun ⟨_, _, _, h⟩ => (by cases h)⟩
  | zero s => exact ⟨fun _ => ⟨_, _, _, rfl⟩, fun _ => rfl⟩
  | finite s m e hm => exact ⟨fun _ => ⟨_, _, _, rfl⟩, fun _ => rfl⟩

theorem isNaN_eq_false_of_isFinite {x : Float} (h : x.isFinite = true) : x.isNaN = false := by
  rw [← Bool.not_eq_true, isNaN_eq_true_iff]
  intro hnan
  obtain ⟨negative, m, e, hparts⟩ := (isFinite_iff x).mp h
  rw [parts_eq_partsOf, hnan] at hparts
  cases hparts

/-- The doubles that are equal to zero have the mantissa zero, with either sign. -/
theorem beq_zero_iff (x : Float) :
    (x == 0.0) = true ↔ ∃ negative, parts x = .finite negative 0 (-1074) := by
  have hzero : IsZero (0.0 : Float).toModel.unpack := by
    show IsZero (.zero .positive)
    trivial
  rw [beq_eq_true_iff, parts_eq_partsOf]
  constructor
  · rintro ⟨-, h⟩
    have hx : IsZero x.toModel.unpack := h.elim (fun h => h ▸ hzero) And.left
    cases hu : x.toModel.unpack with
    | zero s => exact ⟨isMinus s, rfl⟩
    | _ => rw [hu] at hx; exact hx.elim
  · rintro ⟨negative, h⟩
    cases hu : x.toModel.unpack with
    | zero s => exact ⟨(by rintro ⟨⟩), .inr ⟨trivial, hzero⟩⟩
    | finite s m e hm =>
      rw [hu] at h
      cases h
      exact absurd hm (Nat.lt_irrefl 0)
    | _ => rw [hu] at h; cases h

end RecordQuery.Binary64

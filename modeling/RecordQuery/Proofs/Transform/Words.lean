import RecordQuery.Proofs.Binary64.Rational
import RecordQuery.Proofs.Transform.Arrays

/-!
# Words of 32 bits

Two operators take numbers for words of 32 bits: their integer parts modulo 2 ^ 32.  On the way
there an integer part is moved into the range of a signed word of 64 bits, however.  Below 2 ^ 63 in
size nothing is lost by that.  From 2 ^ 63 on a double is a multiple of 2 ^ 11, but the word that is
made of it has all bits set; and below -2 ^ 63 the word is zero, which is right only for multiples
of 2 ^ 32.

* `Binary64.word`, `Binary64.saturated`: an integer modulo 2 ^ 32, and an integer moved into the
  range of 64 bits.
* `Binary64.Wraps`: the integer parts whose word is not lost.
* `Binary64.toBitVec_toWord32`, `Binary64.word_saturated_iff`: the word of a double, and whether it
  is that of its integer part.
* `Value.Multiplies`, `Value.CountsZeros`: the results of the operators, by the words of integers.
* `Value.words_wrap`: which integers these are.
-/

namespace RecordQuery

namespace Binary64

/-- The word of an integer, which is the integer modulo 2 ^ 32. -/
def word (n : ℤ) : BitVec 32 := BitVec.ofInt 32 n

/-- An integer moved into the range of a signed word of 64 bits. -/
def saturated (n : ℤ) : ℤ := clampInt (-0x8000000000000000) 0x7FFFFFFFFFFFFFFF n

/-- The integer parts whose word is not lost: those in the range of 64 bits, and the multiples of 2
^ 32 below it. -/
def Wraps (n : ℤ) : Prop := n < 2 ^ 63 ∧ (-2 ^ 63 ≤ n ∨ 2 ^ 32 ∣ n)

/-! ### Words -/

theorem word_eq_iff {m n : ℤ} : word m = word n ↔ m % 2 ^ 32 = n % 2 ^ 32 := by
  have hm := Int.emod_nonneg m (by decide : (2 : ℤ) ^ 32 ≠ 0)
  have hn := Int.emod_nonneg n (by decide : (2 : ℤ) ^ 32 ≠ 0)
  rw [← BitVec.toNat_inj, word, word, BitVec.toNat_ofInt, BitVec.toNat_ofInt]
  norm_num at hm hn ⊢
  omega

theorem word_mul (m n : ℤ) : word (m * n) = word m * word n := BitVec.ofInt_mul m n

theorem word_add_mul (n k : ℤ) : word (n + 2 ^ 32 * k) = word n :=
  word_eq_iff.mpr (Int.add_mul_emod_self_left ..)

theorem toNat_clz_lt {w : BitVec 32} (h : w ≠ 0#32) : w.clz.toNat < 32 :=
  BitVec.lt_def.mp (BitVec.clz_lt_iff_ne_zero.mpr h)

theorem toNat_clz (w : BitVec 32) :
    w.clz.toNat = if w.toNat = 0 then 32 else 31 - w.toNat.log2 := by
  split
  · next h =>
    obtain rfl : w = 0#32 := BitVec.eq_of_toNat_eq h
    decide
  · next h =>
    have hne : w ≠ 0#32 := fun h0 => h (congrArg BitVec.toNat h0)
    have hlt := toNat_clz_lt hne
    have hlow := BitVec.two_pow_sub_clz_le_toNat_of_ne_zero (by decide) hne
    have hhigh := BitVec.toNat_lt_two_pow_sub_clz (x := w)
    rw [show 32 - w.clz.toNat = 31 - w.clz.toNat + 1 by omega] at hhigh
    have hlog : w.toNat.log2 = 31 - w.clz.toNat := (Nat.log2_eq_iff h).mpr ⟨hlow, hhigh⟩
    omega

/-! ### The word of a double -/

section

variable {x : Float} {n : ℤ} (hx : truncated? x = some n)
include hx

theorem exists_parts_of_truncated? :
    ∃ negative m e, parts x = .finite negative m e ∧ n = signed negative (wholePart m e) := by
  rw [truncated?] at hx
  split at hx
  · next negative m e hparts => exact ⟨negative, m, e, hparts, (Option.some.inj hx).symm⟩
  · cases hx

/-- The word of a double is that of its integer part, moved into range. -/
theorem toBitVec_toWord32 : (toWord32 x).toBitVec = word (saturated n) := by
  obtain ⟨negative, m, e, hparts, rfl⟩ := exists_parts_of_truncated? hx
  have hfinite : x.isFinite = true := (isFinite_iff x).mpr ⟨negative, m, e, hparts⟩
  rw [toWord32, if_pos hfinite, toInt64Range, clamped, hparts]
  rfl

theorem leadingZeros32_eq : leadingZeros32 x = (word (saturated n)).clz.toNat := by
  rw [← toBitVec_toWord32 hx, toNat_clz]
  rfl

theorem wordProduct_eq {y : Float} {k : ℤ} (hy : truncated? y = some k) :
    wordProduct x y = ofInt (word (saturated n * saturated k)).toInt := by
  rw [wordProduct, Int32.toInt, Int32.toBitVec_mul, toBitVec_toWord32 hx, toBitVec_toWord32 hy,
    word_mul]

theorem dvd_of_two_pow_le (hn : 2 ^ 63 ≤ n) : 2 ^ 11 ∣ n := by
  obtain ⟨negative, m, e, hparts, rfl⟩ := exists_parts_of_truncated? hx
  have hw : 2 ^ 63 ≤ wholePart m e := by
    rw [signed] at hn
    split at hn <;> omega
  have he : 0 ≤ e := by
    by_contra he
    have := log2_lt_iff.mp (log2_wholePart_lt hparts (by omega))
    omega
  obtain ⟨k, rfl⟩ := Int.eq_ofNat_of_zero_le he
  rw [wholePart, if_pos he, Int.toNat_natCast, Nat.shiftLeft_eq] at hw ⊢
  have hm : m < 2 ^ 53 := by
    rcases parts_canonical hparts with ⟨-, he'⟩ | ⟨hlog, -⟩
    · omega
    · exact log2_lt_iff.mp (by omega)
  have hk : 11 ≤ k := by
    by_contra hk
    have hpow : 2 ^ k ≤ 2 ^ 10 := Nat.pow_le_pow_right (by decide) (by omega)
    have hlt : m * 2 ^ k < 2 ^ 53 * 2 ^ 10 := Nat.mul_lt_mul_of_lt_of_le hm hpow (by decide)
    exact absurd (hw.trans_lt hlt) (by decide)
  have hdvd : 2 ^ 11 ∣ m * 2 ^ k := Dvd.dvd.mul_left (Nat.pow_dvd_pow 2 hk) m
  have hcast : (2 ^ 11 : ℤ) ∣ ((m * 2 ^ k : Nat) : ℤ) := by exact_mod_cast hdvd
  rw [signed]
  split
  · exact (Int.dvd_neg).mpr hcast
  · exact hcast

/-- **The word of a double is that of its integer part** exactly if this word is not lost. -/
theorem word_saturated_iff : word (saturated n) = word n ↔ Wraps n := by
  have hdvd := dvd_of_two_pow_le hx
  rw [word_eq_iff, saturated, clampInt, Wraps, Int.dvd_iff_emod_eq_zero] at *
  norm_num at hdvd ⊢
  split
  · omega
  · split <;> omega

/-- The leading zeros of the word are counted right also if the word is lost, but begins with a
one. -/
theorem clz_saturated_iff : (word (saturated n)).clz.toNat = (word n).clz.toNat ↔
    Wraps n ∨ 2 ^ 63 ≤ n ∧ 2 ^ 31 ≤ n % 2 ^ 32 := by
  by_cases hwraps : Wraps n
  · rw [(word_saturated_iff hx).mpr hwraps]
    exact iff_of_true rfl (.inl hwraps)
  rw [or_iff_right hwraps]
  rcases le_or_gt (2 ^ 63) n with hn | hn
  · have hsaturated : saturated n = 2 ^ 63 - 1 := by
      rw [saturated, clampInt, if_neg (by omega), if_pos (by omega)]
      rfl
    rw [and_iff_right hn, hsaturated, show (word (2 ^ 63 - 1)).clz.toNat = 0 by decide, eq_comm,
      BitVec.clz_eq_zero_iff (by decide), word, BitVec.toNat_ofInt]
    have := Int.emod_nonneg n (by decide : (2 : ℤ) ^ 32 ≠ 0)
    norm_num at this ⊢
    omega
  · obtain ⟨hlow, hlost⟩ := not_or.mp (not_and.mp hwraps hn)
    rw [Int.not_le] at hlow
    have hsaturated : saturated n = -2 ^ 63 := by
      rw [saturated, clampInt, if_pos (by omega)]
      rfl
    have hne : word n ≠ 0#32 := fun h0 =>
      hlost (Int.dvd_of_emod_eq_zero (word_eq_iff (n := 0).mp h0))
    have := toNat_clz_lt hne
    rw [hsaturated, show (word (-2 ^ 63)).clz.toNat = 32 by decide]
    omega

end

/-! ### Integer parts -/

theorem wraps_towardsZero {q : ℚ} (hlow : -2 ^ 63 ≤ q) (hhigh : q < 2 ^ 63) :
    Wraps (towardsZero q) := by
  rcases lt_or_ge q 0 with hneg | hpos
  · have hceil : ⌈q⌉ ≤ 0 := Int.ceil_le.mpr (by exact_mod_cast hneg.le)
    have hle : (-2 ^ 63 : ℤ) ≤ ⌈q⌉ := by
      have := hlow.trans (Int.le_ceil q)
      exact_mod_cast this
    rw [towardsZero, if_pos hneg]
    exact ⟨hceil.trans_lt (by decide), .inl hle⟩
  · have hfloor : (0 : ℤ) ≤ ⌊q⌋ := Int.floor_nonneg.mpr hpos
    have hlt : ⌊q⌋ < 2 ^ 63 := by
      have := (Int.floor_le q).trans_lt hhigh
      exact_mod_cast this
    rw [towardsZero_of_nonneg hpos]
    exact ⟨hlt, .inl (by omega)⟩

theorem towardsZero_add_intCast {q : ℚ} {k : ℤ} (h : (q < 0 ↔ q + k < 0) ∨ q = towardsZero q) :
    towardsZero (q + k) = towardsZero q + k := by
  rcases h with h | h
  · rw [towardsZero, towardsZero, Int.ceil_add_intCast, Int.floor_add_intCast]
    simp only [h]
    split <;> rfl
  · rw [h, ← Int.cast_add, towardsZero_intCast, towardsZero_intCast]

theorem truncated?_of_sum {x : Float} {q : ℚ} {k : ℤ} (hx : rational? x = some (q + 2 ^ 32 * k))
    (h : (q < 0 ↔ q + 2 ^ 32 * k < 0) ∨ q = towardsZero q) :
    truncated? x = some (towardsZero q + 2 ^ 32 * k) := by
  have hcast : q + 2 ^ 32 * k = q + ((2 ^ 32 * k : ℤ) : ℚ) := by push_cast; rfl
  rw [hcast] at hx h
  rw [truncated?_eq, hx, Option.map_some, towardsZero_add_intCast h]

end Binary64

namespace Value

open Binary64 (ofInt ofNat rational? truncated? towardsZero word saturated Wraps)

variable (functions : Functions)

/-- The product of two numbers as words is the word of an integer, taken with its sign. -/
def Multiplies (x y : Float) (n : ℤ) : Prop :=
  ∀ options : Value, options.field "value" = .number y →
    projected? functions (.number x) "$imul" options = some (.number (ofInt (word n).toInt))

/-- The leading zeros of a number as a word are those of the word of an integer. -/
def CountsZeros (x : Float) (n : ℤ) : Prop :=
  ∀ options : Value,
    projected? functions (.number x) "$clz32" options = some (.number (ofNat (word n).clz.toNat))

variable {functions} {x y : Float} {m n : ℤ}

theorem Multiplies.of_word_eq (h : Multiplies functions x y m) (hword : word m = word n) :
    Multiplies functions x y n := fun options hoptions => by
  rw [h options hoptions, hword]

theorem CountsZeros.of_word_eq (h : CountsZeros functions x m) (hword : word m = word n) :
    CountsZeros functions x n := fun options => by
  rw [h options, hword]

theorem multiplies_saturated (hx : truncated? x = some m) (hy : truncated? y = some n) :
    Multiplies functions x y (saturated m * saturated n) := by
  intro options hoptions
  have himul : (Registry.builtins functions).transform? "$imul" =
      some (Transform.ofBinary "value" Binary64.wordProduct) := rfl
  refine projected?_of_eq_some rfl rfl himul ?_ (by rintro ⟨⟩)
  simp only [hoptions, Binary64.wordProduct_eq hx hy]

theorem countsZeros_saturated (hx : truncated? x = some m) :
    CountsZeros functions x (saturated m) := by
  intro options
  refine projected?_of_eq_some (f := fun subject _ =>
    subject.number?.map fun x => .number (ofNat (Binary64.leadingZeros32 x))) rfl rfl rfl ?_
    (by rintro ⟨⟩)
  rw [← Binary64.leadingZeros32_eq hx]
  rfl

theorem word_eq_of_ofInt_eq {v w : BitVec 32} (h : ofInt v.toInt = ofInt w.toInt) : v = w := by
  have hlog : ∀ w : BitVec 32, w.toInt.natAbs.log2 < 53 := fun w => by
    have hlow := BitVec.le_toInt w
    have hhigh := BitVec.toInt_lt (x := w)
    exact Binary64.log2_lt_iff.mpr (by omega)
  have hsame := congrArg Binary64.integer? h
  rw [Binary64.integer?_ofInt (hlog v), Binary64.integer?_ofInt (hlog w)] at hsame
  exact BitVec.eq_of_toInt_eq (Option.some.inj hsame)

/-- A number is multiplied by one as the word of its integer part exactly if this word is not
lost. -/
theorem multiplies_one_iff (hx : truncated? x = some m) :
    Multiplies functions x 1.0 m ↔ Wraps m := by
  have hone : truncated? 1.0 = some 1 := by decide
  have hmade : Multiplies functions x 1.0 (saturated m) := by
    have hproduct : Multiplies functions x 1.0 (saturated m * saturated 1) :=
      multiplies_saturated hx hone
    rwa [show saturated 1 = 1 by decide, Int.mul_one] at hproduct
  rw [← Binary64.word_saturated_iff hx]
  constructor
  · intro h
    have hsame := (hmade (.record [("value", .number 1.0)]) rfl).symm.trans (h _ rfl)
    exact word_eq_of_ofInt_eq (Value.number.inj (Option.some.inj hsame))
  · intro h options hoptions
    rw [← h]
    exact hmade options hoptions

theorem countsZeros_iff (hx : truncated? x = some m) :
    CountsZeros functions x m ↔ Wraps m ∨ 2 ^ 63 ≤ m ∧ 2 ^ 31 ≤ m % 2 ^ 32 := by
  have hmade : CountsZeros functions x (saturated m) := countsZeros_saturated hx
  have hcount : ∀ w : BitVec 32, Binary64.integer? (ofNat w.clz.toNat) = some (w.clz.toNat : ℤ) :=
    fun w => Binary64.integer?_ofInt (n := w.clz.toNat)
      (Binary64.log2_lt_iff.mpr (w.clz.isLt.trans (by decide)))
  rw [← Binary64.clz_saturated_iff hx]
  constructor
  · intro h
    have hsame := (hmade .undefined).symm.trans (h .undefined)
    have hinteger := congrArg Binary64.integer? (Value.number.inj (Option.some.inj hsame))
    rw [hcount, hcount] at hinteger
    exact Int.ofNat.inj (Option.some.inj hinteger)
  · intro h options
    rw [hmade options, h]

theorem multiplies_of_wraps (hx : truncated? x = some m) (hy : truncated? y = some n) (hm : Wraps m)
    (hn : Wraps n) : Multiplies functions x y (m * n) := by
  intro options hoptions
  rw [multiplies_saturated hx hy options hoptions, Binary64.word_mul, Binary64.word_mul,
    (Binary64.word_saturated_iff hx).mpr hm, (Binary64.word_saturated_iff hy).mpr hn]

/-- **Words of 32 bits.**  All finite doubles are multiplied as the words of their integer parts,
these moved into the range of 64 bits, and their leading zeros are counted as those of such words.
Where the words of both integer parts are not lost, which is so for all doubles below 2 ^ 63 in
size, the product is the word of the product of the integer parts.  A word that is lost shows in the
product with one, and in the number of leading zeros if it begins with a zero or the double is
negative.  A multiple of 2 ^ 32 that is added to an operand changes nothing as long as no word is
lost; if the operand has a fraction, the sum has to have its sign, since it is towards zero that the
fraction is cut off. -/
theorem words_wrap (functions : Functions) {x y : Float} {p q : ℚ} (hx : rational? x = some p)
    (hy : rational? y = some q) :
    let m := towardsZero p
    let n := towardsZero q
    (Multiplies functions x y (saturated m * saturated n) ∧ CountsZeros functions x (saturated m)) ∧
    (-2 ^ 63 ≤ p ∧ p < 2 ^ 63 → Wraps m) ∧
    (Wraps m ∧ Wraps n → Multiplies functions x y (m * n)) ∧
    (Multiplies functions x 1.0 m ↔ Wraps m) ∧
    (CountsZeros functions x m ↔ Wraps m ∨ 2 ^ 63 ≤ m ∧ 2 ^ 31 ≤ m % 2 ^ 32) ∧
    ∀ (x' y' : Float) (k l : ℤ), rational? x' = some (p + 2 ^ 32 * k) →
      rational? y' = some (q + 2 ^ 32 * l) →
      ((p < 0 ↔ p + 2 ^ 32 * k < 0) ∨ p = m) → ((q < 0 ↔ q + 2 ^ 32 * l < 0) ∨ q = n) →
      Wraps (m + 2 ^ 32 * k) → Wraps (n + 2 ^ 32 * l) →
        Multiplies functions x' y' (m * n) ∧ CountsZeros functions x' m := by
  intro m n
  have hm : truncated? x = some m := by rw [Binary64.truncated?_eq, hx, Option.map_some]
  have hn : truncated? y = some n := by rw [Binary64.truncated?_eq, hy, Option.map_some]
  refine ⟨⟨multiplies_saturated hm hn, countsZeros_saturated hm⟩, ?_,
    fun ⟨hwm, hwn⟩ => multiplies_of_wraps hm hn hwm hwn, multiplies_one_iff hm,
    countsZeros_iff hm, ?_⟩
  · exact fun ⟨hlow, hhigh⟩ => Binary64.wraps_towardsZero hlow hhigh
  · intro x' y' k l hx' hy' hp hq hwm hwn
    have hm' := Binary64.truncated?_of_sum hx' hp
    have hn' := Binary64.truncated?_of_sum hy' hq
    have hwordm := Binary64.word_add_mul m k
    have hwordn := Binary64.word_add_mul n l
    refine ⟨(multiplies_of_wraps hm' hn' hwm hwn).of_word_eq ?_,
      ((countsZeros_iff hm').mpr (.inl hwm)).of_word_eq hwordm⟩
    rw [Binary64.word_mul, Binary64.word_mul, hwordm, hwordn]

/-- The largest double below 2 ^ 63 times a negative number with a fraction, and the same with a
multiple of 2 ^ 32 in addition. -/
theorem words_wrap_large :
    let functions : Functions := fun _ _ => .undefined
    let x : Float := 9223372036854774784.0
    let y : Float := -3.5
    let y' : Float := -8589934595.5
    rational? x = some (2 ^ 63 - 1024) ∧ rational? y = some (-7 / 2) ∧
      rational? y' = some (-7 / 2 + 2 ^ 32 * ((-2 : ℤ) : ℚ)) ∧
      Multiplies functions x y ((2 ^ 63 - 1024) * -3) ∧ CountsZeros functions x (2 ^ 63 - 1024) ∧
      Multiplies functions x y' ((2 ^ 63 - 1024) * -3) := by
  intro functions x y y'
  have hpartsx : Binary64.parts x = .finite false (2 ^ 53 - 1) 10 := by decide
  have hpartsy : Binary64.parts y = .finite true (7 * 2 ^ 50) (-51) := by decide
  have hpartsy' : Binary64.parts y' = .finite true (17179869191 * 2 ^ 18) (-19) := by decide
  have hx : rational? x = some (2 ^ 63 - 1024) := by
    rw [Binary64.rational?_of_parts hpartsx]
    norm_num
  have hy : rational? y = some (-7 / 2) := by
    rw [Binary64.rational?_of_parts hpartsy]
    norm_num
  have hy' : rational? y' = some (-7 / 2 + 2 ^ 32 * ((-2 : ℤ) : ℚ)) := by
    rw [Binary64.rational?_of_parts hpartsy']
    norm_num
  have hm : towardsZero (2 ^ 63 - 1024) = 2 ^ 63 - 1024 := by
    rw [← Binary64.towardsZero_intCast (2 ^ 63 - 1024)]
    norm_num
  have hn : towardsZero (-7 / 2) = -3 := by
    rw [towardsZero, if_pos (by norm_num), Int.ceil_eq_iff]
    norm_num
  obtain ⟨-, hwraps, hproduct, -, hzeros, hshift⟩ := words_wrap functions hx hy
  rw [hm] at hwraps hproduct hzeros hshift
  rw [hn] at hproduct hshift
  have hwrapsx : Wraps (2 ^ 63 - 1024) := hwraps ⟨by norm_num, by norm_num⟩
  have hshifted := hshift x y' 0 (-2) (by simpa using hx) hy' (.inr (by norm_num))
    (.inl (by norm_num)) (by simpa using hwrapsx) ⟨by decide, by decide⟩
  exact ⟨hx, hy, hy', hproduct ⟨hwrapsx, ⟨by decide, by decide⟩⟩, hzeros.mpr (.inl hwrapsx),
    hshifted.1⟩

/-- The word of 2 ^ 63 is zero, but its product with one is minus one, and no zeros are counted in
it instead of 32. -/
theorem not_multiplies_saturated :
    let functions : Functions := fun _ _ => .undefined
    let x : Float := 9223372036854775808.0
    rational? x = some (2 ^ 63) ∧ word (2 ^ 63) = 0#32 ∧
      ¬ Multiplies functions x 1.0 (2 ^ 63) ∧ ¬ CountsZeros functions x (2 ^ 63) ∧
      projected? functions (.number x) "$imul" (.record [("value", .number 1.0)]) =
        some (.number (-1.0)) ∧
      projected? functions (.number x) "$clz32" .undefined = some (.number 0.0) := by
  intro functions x
  have hparts : Binary64.parts x = .finite false (2 ^ 52) 11 := by decide
  have hx : rational? x = some (2 ^ 63) := by
    rw [Binary64.rational?_of_parts hparts]
    norm_num
  have hm : truncated? x = some (2 ^ 63) := by decide
  have hlost : ¬ Wraps (2 ^ 63) := fun h => absurd h.1 (by decide)
  refine ⟨hx, by decide, (multiplies_one_iff hm).not.mpr hlost, ?_, ?_, ?_⟩
  · rw [countsZeros_iff hm]
    exact not_or.mpr ⟨hlost, by decide⟩
  · exact multiplies_saturated hm (n := 1) (by decide) _ rfl
  · exact countsZeros_saturated hm _

end Value

end RecordQuery

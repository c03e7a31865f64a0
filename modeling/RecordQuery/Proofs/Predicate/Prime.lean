import Mathlib.Data.Nat.Prime.Basic
import Mathlib.Data.Nat.Sqrt
import RecordQuery.Proofs.Binary64.Rational
import RecordQuery.Proofs.Pattern.Combination

/-!
# Primes

Trial division takes the odd words up to the square root of a word.  No word on the way overflows,
as the square of a divisor that is tried is at most the number; and all doubles too large for that
are even.

* `Binary64.hasNoOddDivisor?_spec`: the loop of trial division from a divisor on.
* `Binary64.isPrimeWord?_spec`: trial division of a word.
* `Binary64.integer?_of_rational?`, `Binary64.even_of_integer?`: the doubles that are integers, and
  the large ones among them.
* `Binary64.isPrime_iff`: the doubles that are primes.
-/

namespace RecordQuery

/-! ### Words -/

namespace Word

theorem divide?_eq_none_iff {m n : UInt64} : divide? m n = none ↔ n = 0 := by
  rw [divide?]
  split <;> simp [*]

theorem divide?_eq_some {m n quotient rest : UInt64} (h : divide? m n = some (quotient, rest)) :
    quotient.toNat = m.toNat / n.toNat ∧ rest.toNat = m.toNat % n.toNat := by
  unfold divide? at h
  split at h
  · cases h
  · cases h
    exact ⟨UInt64.toNat_div m n, UInt64.toNat_mod m n⟩

theorem add?_eq_none_iff {m n : UInt64} : add? m n = none ↔ UInt64.size ≤ m.toNat + n.toNat := by
  rw [add?]
  split <;> simp <;> omega

end Word

namespace Binary64

/-! ### Trial division -/

/-- The test for another round compares the divisor with the quotient instead of its square with the
number. -/
theorem le_quotient_iff {n d quotient rest : UInt64} (hd : 0 < d.toNat)
    (h : Word.divide? n d = some (quotient, rest)) :
    d ≤ quotient ↔ d.toNat * d.toNat ≤ n.toNat := by
  rw [UInt64.le_iff_toNat_le, (Word.divide?_eq_some h).1, Nat.le_div_iff_mul_le hd]

/-- **Trial division from a divisor on** finds out whether a number is divided by one of the
divisors two apart, up to its square root.  There is always a result: a divisor that is followed by
another one has a square up to the number. -/
theorem hasNoOddDivisor?_spec {n d : UInt64} (hn : n.toNat < 2 ^ 64 - 2) (hd : 0 < d.toNat) :
    ∃ answer, hasNoOddDivisor? n d = some answer ∧ (answer = true ↔
      ∀ k, (d.toNat + 2 * k) * (d.toNat + 2 * k) ≤ n.toNat → ¬ d.toNat + 2 * k ∣ n.toNat) := by
  induction d using hasNoOddDivisor?.induct n with
  | case1 d hnone =>
    rw [Word.divide?_eq_none_iff] at hnone
    rw [hnone] at hd
    exact absurd hd (Nat.lt_irrefl 0)
  | case2 d quotient hle hdivide =>
    refine ⟨false, by rw [hasNoOddDivisor?, hdivide]; simp [hle],
      iff_of_false Bool.false_ne_true ?_⟩
    have hdvd : d.toNat ∣ n.toNat := Nat.dvd_of_mod_eq_zero (Word.divide?_eq_some hdivide).2.symm
    exact fun h => h 0 ((le_quotient_iff hd hdivide).mp hle) hdvd
  | case3 d quotient rest hdivide hle _ hnone =>
    -- the divisor is at most the number, so there is room for two more
    rw [Word.add?_eq_none_iff] at hnone
    have hsquare := (le_quotient_iff hd hdivide).mp hle
    have hself := Nat.le_mul_of_pos_left d.toNat hd
    have htwo : (2 : UInt64).toNat = 2 := rfl
    have hsize : UInt64.size = 2 ^ 64 := rfl
    omega
  | case4 d quotient rest hdivide hle hrest next hnext ih =>
    have hsum : next.toNat = d.toNat + 2 := Word.toNat_of_add?_eq_some hnext
    obtain ⟨answer, hanswer, hspec⟩ := ih (by omega)
    refine ⟨answer, ?_, hspec.trans ⟨fun h k => ?_, fun h k => ?_⟩⟩
    · rw [hasNoOddDivisor?, hdivide]
      dsimp only
      rw [if_pos hle, if_neg hrest]
      split
      · next hnone => rw [hnone] at hnext; cases hnext
      · next other hother =>
        rw [hother] at hnext
        cases hnext
        exact hanswer
    · cases k with
      | zero =>
        intro _ hdvd
        refine hrest (UInt64.toNat_inj.mp ?_)
        rw [(Word.divide?_eq_some hdivide).2]
        exact Nat.mod_eq_zero_of_dvd hdvd
      | succ k =>
        have hk := h k
        rwa [hsum, show d.toNat + 2 + 2 * k = d.toNat + 2 * (k + 1) by ring] at hk
    · have hk := h (k + 1)
      rwa [hsum, show d.toNat + 2 + 2 * k = d.toNat + 2 * (k + 1) by ring]
  | case5 d quotient rest hdivide hgt =>
    refine ⟨true, by rw [hasNoOddDivisor?, hdivide]; simp [hgt], iff_of_true rfl fun k hk _ => ?_⟩
    have hsquare : d.toNat * d.toNat ≤ (d.toNat + 2 * k) * (d.toNat + 2 * k) :=
      Nat.mul_le_mul (Nat.le_add_right ..) (Nat.le_add_right ..)
    exact hgt ((le_quotient_iff hd hdivide).mpr (hsquare.trans hk))

theorem prime_iff_of_odd {n : Nat} (hn : 2 ≤ n) (hodd : n % 2 = 1) :
    n.Prime ↔ ∀ k, (3 + 2 * k) * (3 + 2 * k) ≤ n → ¬ 3 + 2 * k ∣ n := by
  rw [Nat.prime_def_le_sqrt]
  refine ⟨fun h k hk => h.2 _ (by omega) (Nat.le_sqrt.mpr hk),
    fun h => ⟨hn, fun d hd hle hdvd => ?_⟩⟩
  rcases Nat.even_or_odd' d with ⟨k, rfl | rfl⟩
  · have htwo : 2 ∣ n := (Nat.dvd_mul_right 2 k).trans hdvd
    omega
  · obtain ⟨j, rfl⟩ : ∃ j, k = j + 1 := ⟨k - 1, by omega⟩
    rw [show 2 * (j + 1) + 1 = 3 + 2 * j by ring] at hle hdvd
    exact h j (Nat.le_sqrt.mp hle) hdvd

/-- **Trial division of a word from two on** tells whether it is prime. -/
theorem isPrimeWord?_spec {n : UInt64} (htwo : 2 ≤ n.toNat) (hn : n.toNat < 2 ^ 64 - 2) :
    ∃ answer, isPrimeWord? n = some answer ∧ (answer = true ↔ n.toNat.Prime) := by
  rw [isPrimeWord?]
  split
  · next hsmall =>
    have hlt : n.toNat < 4 := hsmall
    refine ⟨true, rfl, iff_of_true rfl ?_⟩
    obtain h | h : n.toNat = 2 ∨ n.toNat = 3 := by omega
    · exact h ▸ Nat.prime_two
    · exact h ▸ Nat.prime_three
  · next hlarge =>
    have hge : ¬ n.toNat < 4 := hlarge
    have hrest : (n % 2).toNat = n.toNat % 2 := UInt64.toNat_mod n 2
    split
    · next heven =>
      rw [heven] at hrest
      refine ⟨false, rfl, iff_of_false Bool.false_ne_true fun hprime => ?_⟩
      have hdvd : 2 ∣ n.toNat := Nat.dvd_of_mod_eq_zero hrest.symm
      have := (Nat.prime_dvd_prime_iff_eq Nat.prime_two hprime).mp hdvd
      omega
    · next hodd =>
      have hone : n.toNat % 2 = 1 := by
        have hne : (n % 2).toNat ≠ 0 := fun h => hodd (UInt64.toNat_inj.mp h)
        omega
      obtain ⟨answer, hanswer, hspec⟩ := hasNoOddDivisor?_spec hn (d := 3) (by decide)
      exact ⟨answer, hanswer, hspec.trans (prime_iff_of_odd htwo hone).symm⟩

/-! ### Doubles that are integers -/

theorem isWhole_of_eq_natCast {m n : Nat} {e : Int} (h : (m : ℚ) * 2 ^ e = n) :
    isWhole m e = true := by
  rw [isWhole, Bool.or_eq_true, decide_eq_true_eq, beq_iff_eq]
  refine or_iff_not_imp_left.mpr fun he => ?_
  obtain ⟨k, rfl⟩ : ∃ k : Nat, e = -k := ⟨(-e).toNat, by omega⟩
  have hm : (m : ℚ) = (n * 2 ^ k : Nat) := by
    rw [zpow_neg, zpow_natCast, ← div_eq_mul_inv, div_eq_iff (by positivity)] at h
    exact_mod_cast h
  rw [Nat.cast_inj.mp hm, neg_neg, Int.toNat_natCast, Nat.one_shiftLeft, Nat.mul_mod_left]

theorem integer?_of_rational? {x : Float} {n : Int} (h : rational? x = some (n : ℚ)) :
    integer? x = some n := by
  cases hparts : parts x with
  | nan => rw [rational?, hparts] at h; cases h
  | infinite => rw [rational?, hparts] at h; cases h
  | finite negative m e =>
    have hsize : (m : ℚ) * 2 ^ e = n.natAbs := by
      rw [rational?_of_parts hparts, Option.some.injEq] at h
      have habs : |(n : ℚ)| = (m : ℚ) * 2 ^ e := by
        rw [← h]
        split <;> simp [abs_of_nonneg (size_nonneg m e)]
      rw [← habs, Nat.cast_natAbs, Int.cast_abs]
    have hsome : integer? x = some (signed negative (wholePart m e)) :=
      integer?_eq_some_iff.mpr ⟨negative, m, e, hparts, isWhole_of_eq_natCast hsize, rfl⟩
    have hsame : (signed negative (wholePart m e) : ℚ) = n :=
      Option.some.inj ((rational?_of_integer? hsome).symm.trans h)
    rw [hsome, Int.cast_inj.mp hsame]

/-- The doubles that are integers above the greatest exact one are even. -/
theorem even_of_integer? {x : Float} {n : Int} (h : integer? x = some n)
    (hn : maxExactInteger < n) : 2 ∣ n := by
  obtain ⟨negative, m, e, hparts, hwhole, rfl⟩ := integer?_eq_some_iff.mp h
  have hlarge : 9007199254740991 < (wholePart m e : Int) := by
    rw [maxExactInteger, signed] at hn
    split at hn <;> omega
  have hmantissa : m < 9007199254740992 := by
    rcases parts_canonical hparts with ⟨hm, -⟩ | ⟨hm, -⟩
    · exact hm.trans (by decide)
    · exact log2_lt_iff.mp (by omega)
  -- the mantissa alone would be too small
  have he : 0 < e := by
    refine Int.not_le.mp fun he => ?_
    have hm := eq_shiftLeft_of_isWhole he hwhole
    rw [Nat.shiftLeft_eq] at hm
    have := Nat.le_mul_of_pos_right (wholePart m e) (Nat.two_pow_pos (-e).toNat)
    omega
  have heven : 2 ∣ wholePart m e := by
    rw [wholePart, if_pos he.le, Nat.shiftLeft_eq]
    exact (dvd_pow_self 2 (by omega)).mul_left m
  have hcast : (2 : Int) ∣ wholePart m e := by exact_mod_cast heven
  rw [signed]
  split
  · exact hcast.neg_right
  · exact hcast

/-! ### The predicate -/

theorem toNat_of_integer? {x : Float} {n : Nat} (h : integer? x = some (n : Int))
    (hn : (n : Int) ≤ maxExactInteger) : (UInt64.ofNat (toCount x)).toNat = n := by
  rw [maxExactInteger] at hn
  rw [toCount_of_integer? h, greatestCount, Nat.min_eq_left (by omega), UInt64.toNat_ofNat',
    Nat.mod_eq_of_lt (by omega)]

theorem isPrime?_spec (x : Float) :
    ∃ answer, isPrime? x = some answer ∧
      (answer = true ↔ ∃ p : Nat, p.Prime ∧ integer? x = some (p : Int)) := by
  cases hinteger : integer? x with
  | none =>
    refine ⟨false, by rw [isPrime?, hinteger], iff_of_false Bool.false_ne_true ?_⟩
    rintro ⟨p, -, ⟨⟩⟩
  | some n =>
    by_cases hrange : 2 ≤ n ∧ n ≤ maxExactInteger
    · obtain ⟨k, rfl⟩ := Int.eq_ofNat_of_zero_le (by omega : 0 ≤ n)
      have hword := toNat_of_integer? hinteger hrange.2
      have hle : (k : Int) ≤ 9007199254740991 := hrange.2
      obtain ⟨answer, hanswer, hspec⟩ :=
        isPrimeWord?_spec (n := UInt64.ofNat (toCount x)) (by omega) (by omega)
      refine ⟨answer, ?_, ?_⟩
      · rw [isPrime?, hinteger]
        dsimp only
        rw [if_pos hrange, hanswer]
      · rw [hspec, hword]
        refine ⟨fun hprime => ⟨k, hprime, rfl⟩, ?_⟩
        rintro ⟨p, hprime, hp⟩
        rwa [Int.ofNat_inj.mp (Option.some.inj hp)]
    · refine ⟨false, ?_, iff_of_false Bool.false_ne_true ?_⟩
      · rw [isPrime?, hinteger]
        dsimp only
        rw [if_neg hrange]
      · rintro ⟨p, hprime, hp⟩
        obtain rfl : n = p := Option.some.inj hp
        -- what is out of range is too small or even
        have htwo := hprime.two_le
        have hdvd : 2 ∣ p := by
          exact_mod_cast even_of_integer? hinteger (by omega)
        have hsame := (Nat.prime_dvd_prime_iff_eq Nat.prime_two hprime).mp hdvd
        have hmax : (2 : Int) ≤ maxExactInteger := by decide
        omega

/-- **The primes among the doubles.**  Whatever the double is, the test ends without an overflow on
the way, and it holds of the double if the number of the double is a prime and in no other case.
The predicate is this test. -/
theorem isPrime_iff (functions : Functions) (x : Float) :
    (∃ answer, isPrime? x = some answer) ∧
    (isPrime x = true ↔ ∃ p : Nat, p.Prime ∧ rational? x = some (p : ℚ)) ∧
    ((Registry.builtins functions).accepts (.number x) (.record [("$isPrime", .bool true)]) = true ↔
      ∃ p : Nat, p.Prime ∧ rational? x = some (p : ℚ)) := by
  obtain ⟨answer, hanswer, hspec⟩ := isPrime?_spec x
  have hprime : isPrime x = true ↔ ∃ p : Nat, p.Prime ∧ rational? x = some (p : ℚ) := by
    rw [isPrime, hanswer, beq_iff_eq, Option.some.injEq, hspec]
    refine exists_congr fun p => and_congr_right fun _ => ⟨fun h => ?_, fun h => ?_⟩
    · exact_mod_cast rational?_of_integer? h
    · exact integer?_of_rational? (by exact_mod_cast h)
  refine ⟨⟨answer, hanswer⟩, hprime, ?_⟩
  rw [Registry.accepts_of_predicate rfl rfl rfl]
  exact hprime

end Binary64

end RecordQuery

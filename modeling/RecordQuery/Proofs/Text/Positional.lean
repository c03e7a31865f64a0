import Mathlib.Data.Nat.Digits.Lemmas
import Mathlib.Tactic.Ring
import RecordQuery.Binary64.Digits
import RecordQuery.Proofs.Text.Case
import RecordQuery.Value.Conversion

/-!
# Numerals in a base

An integer is written in a base with the decimal digits and the letters for the values from ten on.
A numeral with a zero in front and then the letter of a mark is read in the base of that mark,
although in the larger bases the letters of the marks are digits themselves.

* `Positional`, `Positional.value`, `Positional.chars`: a sign and digits, their number, and the
  text in lower case.
* `Positional.ofInt`: an integer without zeros in front.
* `Positional.integerIn?_chars`: the number is read off the text.
* `Marked`, `Positional.not_marked_ofInt`: the texts that a mark is seen in.
* `Positional.natAbs_lt_value_of_marked`: what is read behind a mark is too small.
-/

namespace RecordQuery.Text

open Binary64 (signed signChars spanSign)

/-- The digits of all bases up to 36, by their values. -/
def baseDigits : List Char := "0123456789abcdefghijklmnopqrstuvwxyz".toList

def baseDigit (value : Nat) : Char := baseDigits.getD value '0'

/-- An integer in a base: a sign and digits, the first one for the highest power. -/
structure Positional (base : Nat) where
  negative : Bool
  digits : List (Fin base)
  digits_ne_nil : digits ≠ []

/-- Whether a text begins with the mark of a base, in upper or lower case. -/
def Marked (text : List Char) : Prop :=
  ∃ letter ∈ ['x', 'o', 'b'], ['0', letter] <+: text.map Char.toLower

instance : DecidablePred Marked := fun text =>
  List.decidableBEx (fun letter => ['0', letter] <+: text.map Char.toLower) ['x', 'o', 'b']

section

variable {base : Nat} {text : List Char}

theorem number?_of_markedBase? {below : Nat} {rest : List Char} (hne : text ≠ [])
    (h : markedBase? (text.map Char.toLower) = some (below, rest)) :
    number? base text = (integerIn? below rest).map Binary64.ofInt := by
  rw [number?, if_neg hne]
  dsimp only
  rw [h]

theorem number?_of_markedBase?_eq_none (hne : text ≠ [])
    (h : markedBase? (text.map Char.toLower) = none) (hbase : base ≠ 10 ∧ 2 ≤ base ∧ base ≤ 36) :
    number? base text = (integerIn? base (text.map Char.toLower)).map Binary64.ofInt := by
  rw [number?, if_neg hne]
  dsimp only
  rw [h]
  exact if_pos hbase

end

namespace Positional

variable {base : Nat}

/-- The number that the digits stand for. -/
def value (n : Positional base) : Int :=
  signed n.negative (Nat.ofDigits base (n.digits.map Fin.val).reverse)

/-- The text in lower case. -/
def chars (n : Positional base) : List Char :=
  signChars n.negative ++ n.digits.map fun d => baseDigit d.val

/-- An integer without zeros in front. -/
def ofInt (hbase : 1 < base) (n : Int) : Positional base where
  negative := n < 0
  digits :=
    if n = 0 then [⟨0, by omega⟩]
    else (Nat.digits base n.natAbs).reverse.pmap Fin.mk fun _ hd =>
      Nat.digits_lt_base hbase (List.mem_reverse.mp hd)
  digits_ne_nil := by
    split
    · exact List.cons_ne_nil _ _
    · next hne =>
      simpa [Nat.digits_eq_nil_iff_eq_zero] using hne

/-! ### Digits -/

theorem digitValue?_eq_filter (hbase : base ≤ 36) (c : Char) :
    digitValue? base c = (digitValue? 36 c).filter fun value => value < base := by
  rw [digitValue?, digitValue?, Option.filter_filter]
  congr 1
  funext value
  have : value < base → value < 36 := fun h => h.trans_le hbase
  by_cases hvalue : value < base <;> simp [hvalue, this]

theorem digitValue?_baseDigit (hbase : base ≤ 36) (d : Fin base) :
    digitValue? base (baseDigit d) = some (d : Nat) := by
  have hall : ∀ d : Fin 36, digitValue? 36 (baseDigit d) = some (d : Nat) := by decide +kernel
  rw [digitValue?_eq_filter hbase, hall ⟨d, d.isLt.trans_le hbase⟩, Option.filter_some]
  simp

theorem lt_of_digitValue? {c : Char} {d : Nat} (h : digitValue? base c = some d) : d < base := by
  rw [digitValue?, Option.filter_eq_some_iff] at h
  simpa using h.2

theorem digitsValueFrom?_map (hbase : base ≤ 36) (n : Nat) (ds : List (Fin base)) :
    digitsValueFrom? base n (ds.map fun d => baseDigit d.val) =
      some (n * base ^ ds.length + Nat.ofDigits base (ds.map Fin.val).reverse) := by
  induction ds generalizing n with
  | nil => simp [digitsValueFrom?]
  | cons d ds ih =>
    rw [List.map_cons, digitsValueFrom?, digitValue?_baseDigit hbase, Option.bind_some, ih,
      List.map_cons, Nat.ofDigits_reverse_cons, List.length_map, List.length_cons, pow_succ]
    congr 1
    ring

theorem lt_of_digitsValueFrom? {n v : Nat} {cs : List Char}
    (h : digitsValueFrom? base n cs = some v) : v < (n + 1) * base ^ cs.length := by
  induction cs generalizing n with
  | nil =>
    obtain rfl : n = v := Option.some.inj h
    simp
  | cons c cs ih =>
    rw [digitsValueFrom?, Option.bind_eq_some_iff] at h
    obtain ⟨d, hd, h⟩ := h
    have hnext : base * n + d + 1 ≤ (n + 1) * base := by
      have := lt_of_digitValue? hd
      rw [Nat.add_mul, Nat.one_mul, Nat.mul_comm n]
      omega
    calc v < (base * n + d + 1) * base ^ cs.length := ih h
      _ ≤ (n + 1) * base * base ^ cs.length := Nat.mul_le_mul_right _ hnext
      _ = (n + 1) * base ^ (c :: cs).length := by rw [List.length_cons, pow_succ]; ring

/-! ### Texts -/

theorem chars_ne_nil (n : Positional base) : n.chars ≠ [] :=
  List.append_ne_nil_of_right_ne_nil _ (mt List.map_eq_nil_iff.mp n.digits_ne_nil)

theorem isBlank_of_mem_chars (hbase : base ≤ 36) {n : Positional base} {c : Char}
    (h : c ∈ n.chars) : isBlank c = false := by
  have hall : ∀ d : Fin 36, isBlank (baseDigit d) = false := by decide
  rw [chars, List.mem_append, List.mem_map] at h
  rcases h with h | ⟨d, -, rfl⟩
  · rw [signChars] at h
    split at h
    · rw [List.mem_singleton.mp h]
      decide
    · cases h
  · exact hall ⟨d, d.isLt.trans_le hbase⟩

theorem baseDigit_ne_sign : ∀ d : Fin 36, baseDigit d ≠ '-' ∧ baseDigit d ≠ '+' := by decide

theorem spanSign_chars (hbase : base ≤ 36) (n : Positional base) :
    spanSign n.chars = (n.negative, n.digits.map fun d => baseDigit d.val) := by
  obtain ⟨negative, digits, hne⟩ := n
  cases negative with
  | true => rfl
  | false =>
    obtain ⟨d, ds, rfl⟩ := List.exists_cons_of_ne_nil hne
    obtain ⟨hminus, hplus⟩ := baseDigit_ne_sign ⟨d, d.isLt.trans_le hbase⟩
    rw [chars, signChars, if_neg Bool.false_ne_true, List.nil_append, List.map_cons, spanSign]
    · exact fun rest heq => hminus (List.cons.inj heq).1
    · exact fun rest heq => hplus (List.cons.inj heq).1

/-- **The number is read off the text.** -/
theorem integerIn?_chars (hbase : base ≤ 36) {n : Positional base}
    (hn : n.value.natAbs < 9007199254740992) : integerIn? base n.chars = some n.value := by
  have hdigits := n.digits_ne_nil
  rw [integerIn?, spanSign_chars hbase]
  dsimp only
  rw [if_neg (mt List.map_eq_nil_iff.mp hdigits), digitsValueFrom?_map hbase, Nat.zero_mul,
    Nat.zero_add, Option.map_some, ← value, Option.filter_some, if_pos]
  simp only [Bool.and_eq_true, decide_eq_true_eq]
  omega

theorem natAbs_signed (negative : Bool) (n : Nat) : (signed negative n).natAbs = n := by
  cases negative <;> simp [signed]

theorem natAbs_lt_of_integerIn? {cs : List Char} {k : Int} (h : integerIn? base cs = some k)
    (hbase : 0 < base) : k.natAbs < base ^ cs.length := by
  rw [integerIn?] at h
  have hlength : (spanSign cs).2.length ≤ cs.length := by
    unfold spanSign
    split <;> simp
  obtain ⟨negative, ds⟩ := spanSign cs
  dsimp only at h
  split at h
  · cases h
  · rw [Option.filter_eq_some_iff, Option.map_eq_some_iff] at h
    obtain ⟨⟨v, hv, rfl⟩, -⟩ := h
    have hlt := lt_of_digitsValueFrom? hv
    rw [Nat.zero_add, Nat.one_mul] at hlt
    rw [natAbs_signed]
    exact hlt.trans_le (Nat.pow_le_pow_right hbase hlength)

/-! ### Integers without zeros in front -/

theorem map_val_ofInt (hbase : 1 < base) {n : Int} (hne : n ≠ 0) :
    (ofInt hbase n).digits.map Fin.val = (Nat.digits base n.natAbs).reverse := by
  rw [ofInt]
  dsimp only
  rw [if_neg hne, List.map_pmap]
  exact (List.pmap_eq_map _).trans (List.map_id _)

theorem value_ofInt (hbase : 1 < base) (n : Int) : (ofInt hbase n).value = n := by
  by_cases hne : n = 0
  · subst hne
    rfl
  · rw [value, map_val_ofInt hbase hne, List.reverse_reverse, Nat.ofDigits_digits, signed, ofInt]
    simp only [decide_eq_true_eq]
    split <;> omega

theorem head_ofInt_ne_zero (hbase : 1 < base) (n : Int) {d e : Fin base} {ds : List (Fin base)}
    (h : (ofInt hbase n).digits = d :: e :: ds) : d.val ≠ 0 := by
  by_cases hne : n = 0
  · subst hne
    rw [ofInt] at h
    simp at h
  · have hmap := map_val_ofInt hbase hne
    rw [h, List.map_cons] at hmap
    have hdigits : Nat.digits base n.natAbs = ((e :: ds).map Fin.val).reverse ++ [d.val] := by
      rw [← List.reverse_cons, hmap, List.reverse_reverse]
    have hlast := Nat.getLast_digit_ne_zero base (m := n.natAbs) (by omega)
    simpa [hdigits] using hlast

/-! ### Marks -/

theorem markedBase?_eq_none {text : List Char} (h : ¬ Marked text) :
    markedBase? (text.map Char.toLower) = none := by
  unfold markedBase?
  split
  · next heq => exact absurd ⟨'x', by decide, heq ▸ ⟨_, rfl⟩⟩ h
  · next heq => exact absurd ⟨'o', by decide, heq ▸ ⟨_, rfl⟩⟩ h
  · next heq => exact absurd ⟨'b', by decide, heq ▸ ⟨_, rfl⟩⟩ h
  · rfl

/-- The base of a mark is smaller than those in which its letter is a digit. -/
theorem exists_markedBase? {text : List Char} (h : Marked text) :
    ∃ (mark : Fin 36) (below : Nat) (rest : List Char), 0 < below ∧ below < mark ∧ 10 < mark.val ∧
      text.map Char.toLower = '0' :: baseDigit mark :: rest ∧
      markedBase? (text.map Char.toLower) = some (below, rest) := by
  obtain ⟨letter, hletter, rest, hrest⟩ := h
  rw [← hrest]
  simp only [List.mem_cons, List.not_mem_nil, or_false] at hletter
  rcases hletter with rfl | rfl | rfl
  · exact ⟨33, 16, rest, by decide, by decide, by decide, rfl, rfl⟩
  · exact ⟨24, 8, rest, by decide, by decide, by decide, rfl, rfl⟩
  · exact ⟨11, 2, rest, by decide, by decide, by decide, rfl, rfl⟩

theorem baseDigit_injective : ∀ d e : Fin 36, baseDigit d = baseDigit e → d = e := by decide

theorem digits_of_chars_eq (hbase : base ≤ 36) {n : Positional base} {mark : Fin 36}
    {rest : List Char} (h : n.chars = '0' :: baseDigit mark :: rest) :
    n.negative = false ∧ ∃ (d e : Fin base) (ds : List (Fin base)), n.digits = d :: e :: ds ∧
      d.val = 0 ∧ e.val = mark ∧ ds.length = rest.length := by
  obtain ⟨negative, digits, hne⟩ := n
  cases negative with
  | true => cases h
  | false =>
    refine ⟨rfl, ?_⟩
    rw [chars, signChars, if_neg Bool.false_ne_true, List.nil_append] at h
    dsimp only at h
    obtain ⟨d, tail, rfl⟩ := List.exists_cons_of_ne_nil hne
    rw [List.map_cons, List.cons.injEq] at h
    obtain ⟨hd, htail⟩ := h
    obtain ⟨e, ds, rfl⟩ := List.exists_cons_of_ne_nil (l := tail) (by rintro rfl; cases htail)
    rw [List.map_cons, List.cons.injEq] at htail
    obtain ⟨he, hds⟩ := htail
    refine ⟨d, e, ds, rfl, ?_, ?_, ?_⟩
    · exact congrArg Fin.val (baseDigit_injective ⟨d, d.isLt.trans_le hbase⟩ 0 hd)
    · exact congrArg Fin.val (baseDigit_injective ⟨e, e.isLt.trans_le hbase⟩ mark he)
    · rw [← hds, List.length_map]

/-- An integer that is written without zeros in front has no mark. -/
theorem not_marked_ofInt (hbase : 1 < base) (hle : base ≤ 36) {n : Int} {text : List Char}
    (h : text.map Char.toLower = (ofInt hbase n).chars) : ¬ Marked text := by
  intro hmarked
  obtain ⟨mark, below, rest, -, -, -, hchars, -⟩ := exists_markedBase? hmarked
  obtain ⟨-, d, e, ds, hdigits, hzero, -⟩ := digits_of_chars_eq hle (h.symm.trans hchars)
  exact head_ofInt_ne_zero hbase n hdigits hzero

/-- **What is read behind a mark is too small.** -/
theorem natAbs_lt_value_of_marked (hbase : base ≤ 36) {n : Positional base} {mark : Fin 36}
    {below : Nat} {rest : List Char} (hpos : 0 < below) (hlt : below < mark)
    (h : n.chars = '0' :: baseDigit mark :: rest) {k : Int} (hk : integerIn? below rest = some k) :
    (k.natAbs : Int) < n.value := by
  obtain ⟨hnegative, d, e, ds, hdigits, hzero, he, hlength⟩ := digits_of_chars_eq hbase h
  have hread : k.natAbs < below ^ rest.length := natAbs_lt_of_integerIn? hk hpos
  have hbelow : below ≤ base := by have := e.isLt; omega
  have hvalue : base ^ ds.length ≤ Nat.ofDigits base (n.digits.map Fin.val).reverse := by
    have hone : 1 ≤ e.val := by omega
    rw [hdigits, List.map_cons, List.map_cons, Nat.ofDigits_reverse_cons, Nat.ofDigits_reverse_cons,
      hzero, List.length_map]
    have := Nat.mul_le_mul_left (base ^ ds.length) hone
    omega
  have hpow : below ^ rest.length ≤ base ^ ds.length := by
    rw [hlength]
    exact Nat.pow_le_pow_left hbelow _
  rw [value, hnegative, signed, if_neg Bool.false_ne_true]
  omega

end Positional

end RecordQuery.Text

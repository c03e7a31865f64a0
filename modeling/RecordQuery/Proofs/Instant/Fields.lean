import Mathlib.Data.Nat.Digits.Defs
import RecordQuery.Instant.Reader
import RecordQuery.Instant.Writer
import RecordQuery.Proofs.Similarity.Token

/-!
# Fields of dates

A number is written in decimal, with zeros in front up to the width of its field.  A reader takes
the digits up to that width, or up to the first character that is no digit.

* `Binary64.digitsValue_digitChars`, `Instant.digitsValue_padded`: a number is read off its digits.
* `Instant.spanNumber_append`: digits at the front of a text.
* `Instant.spanNumber_padded`, `Instant.spanShort_padded`, `Instant.spanYear_digitChars`,
  `Instant.spanFraction_padded`: the fields.
-/

namespace RecordQuery

namespace Binary64

theorem digitsValue_digitChars (n : Nat) : digitsValue (digitChars n) = n :=
  Nat.ofDigitChars_eq_foldl.symm.trans Nat.ofDigitChars_ten_toDigits

theorem digitsValue_replicate_append (k : Nat) (ds : List Char) :
    digitsValue (List.replicate k '0' ++ ds) = digitsValue ds := by
  rw [digitsValue, ← Nat.ofDigitChars_eq_foldl, Nat.ofDigitChars_append,
    Nat.ofDigitChars_replicate_zero, Nat.mul_zero, Nat.ofDigitChars_eq_foldl, digitsValue]

theorem digitsValue_append_replicate (ds : List Char) (k : Nat) :
    digitsValue (ds ++ List.replicate k '0') = 10 ^ k * digitsValue ds := by
  rw [digitsValue, ← Nat.ofDigitChars_eq_foldl, Nat.ofDigitChars_append,
    Nat.ofDigitChars_replicate_zero, Nat.ofDigitChars_eq_foldl, digitsValue]

theorem isDigit_of_mem_digitChars {n : Nat} {c : Char} (h : c ∈ digitChars n) : c.isDigit = true :=
  Nat.isDigit_of_mem_toDigits (by decide) (by decide) h

end Binary64

namespace Instant

open Binary64 (digitsValue digitChars)

/-! ### Numbers with zeros in front -/

section

variable {width n : Nat}

theorem isDigit_of_mem_padded {c : Char} (h : c ∈ padded width n) : c.isDigit = true := by
  rw [padded, List.mem_append] at h
  rcases h with h | h
  · rw [List.eq_of_mem_replicate h]
    rfl
  · exact Binary64.isDigit_of_mem_digitChars h

theorem digitsValue_padded (width n : Nat) : digitsValue (padded width n) = n := by
  rw [padded, Binary64.digitsValue_replicate_append, Binary64.digitsValue_digitChars]

theorem length_padded (hwidth : 0 < width) (hn : n < 10 ^ width) :
    (padded width n).length = width := by
  have hle : (digitChars n).length ≤ width := Nat.toDigits_length 10 n width hwidth hn
  rw [padded, List.length_append, List.length_replicate]
  omega

theorem padded_eq_digitChars (h : 10 ^ (width - 1) ≤ n) : padded width n = digitChars n := by
  have hle : width ≤ (digitChars n).length := by
    by_contra hlt
    obtain ⟨k, rfl⟩ : ∃ k, width = k + 2 := by
      have := Nat.length_toDigits_pos (b := 10) (n := n)
      rw [digitChars] at hlt
      exact ⟨width - 2, by omega⟩
    have hshort := (Nat.length_toDigits_le_iff (b := 10) (n := n) (k := k + 1) (by decide)
      (by omega)).mp (by rw [digitChars] at hlt; omega)
    exact absurd hshort (Nat.not_lt.mpr h)
  rw [padded, Nat.sub_eq_zero_of_le hle]
  rfl

end

/-! ### Reading numbers -/

theorem takeWhile_isDigit_eq_nil {rest : List Char} (h : rest.head?.all (!·.isDigit) = true) :
    rest.takeWhile Char.isDigit = [] := by
  cases rest with
  | nil => rfl
  | cons c rest => exact List.takeWhile_cons_of_neg (by simpa using h)

/-- **Digits at the front of a text** are taken, if there are as many of them as the field has or no
further digit comes behind them. -/
theorem spanNumber_append {least most : Nat} {ds rest : List Char}
    (hds : ∀ c ∈ ds, c.isDigit = true) (hleast : least ≤ ds.length) (hmost : ds.length ≤ most)
    (hrest : ds.length = most ∨ rest.head?.all (!·.isDigit) = true) :
    spanNumber least most (ds ++ rest) = some (digitsValue ds, rest) := by
  have htaken : ((ds ++ rest).takeWhile Char.isDigit).take most = ds := by
    rw [List.takeWhile_append_of_pos hds]
    rcases hrest with hlength | hstop
    · rw [List.take_append_of_le_length hlength.ge, List.take_of_length_le hmost]
    · rw [takeWhile_isDigit_eq_nil hstop, List.append_nil, List.take_of_length_le hmost]
  rw [spanNumber, htaken, if_neg (Nat.not_lt.mpr hleast), List.drop_left]

theorem spanNumber_padded {width n : Nat} (hwidth : 0 < width) (hn : n < 10 ^ width)
    (rest : List Char) : spanNumber width width (padded width n ++ rest) = some (n, rest) := by
  have hlength := length_padded hwidth hn
  rw [spanNumber_append (fun c => isDigit_of_mem_padded) hlength.ge hlength.le (.inl hlength),
    digitsValue_padded]

theorem spanNumber_eq_none {least most : Nat} {ds rest : List Char}
    (hds : ∀ c ∈ ds, c.isDigit = true) (hshort : ds.length < least)
    (hrest : rest.head?.all (!·.isDigit) = true) : spanNumber least most (ds ++ rest) = none := by
  rw [spanNumber, List.takeWhile_append_of_pos hds, takeWhile_isDigit_eq_nil hrest, List.append_nil]
  refine if_pos (lt_of_le_of_lt ?_ hshort)
  rw [List.length_take]
  exact Nat.min_le_right ..

theorem dropBlanks_append {ds : List Char} (hds : ∀ c ∈ ds, c.isDigit = true) (hne : ds ≠ [])
    (rest : List Char) : dropBlanks (ds ++ rest) = ds ++ rest := by
  obtain ⟨d, ds, rfl⟩ := List.exists_cons_of_ne_nil hne
  refine List.dropWhile_cons_of_neg ?_
  rw [Similarity.Token.not_isBlank_of_isDigit (hds d List.mem_cons_self)]
  decide

theorem padded_ne_nil {width n : Nat} : padded width n ≠ [] :=
  List.append_ne_nil_of_right_ne_nil _ Nat.toDigits_ne_nil

theorem dropBlanks_padded (width n : Nat) (rest : List Char) :
    dropBlanks (padded width n ++ rest) = padded width n ++ rest :=
  dropBlanks_append (fun _ => isDigit_of_mem_padded) padded_ne_nil rest

theorem spanShort_padded {n : Nat} (hn : n < 100) (rest : List Char) :
    spanShort (padded 2 n ++ rest) = some (n, rest) := by
  have hlength : (padded 2 n).length = 2 := length_padded (by decide) hn
  rw [spanShort, dropBlanks_padded, spanNumber_append (fun c => isDigit_of_mem_padded)
    (by omega) hlength.le (.inl hlength), digitsValue_padded]

theorem spanYear_digitChars {year : Nat} (hyear : year ≤ 9999) {rest : List Char}
    (hrest : rest.head?.all (!·.isDigit) = true) :
    spanYear (digitChars year ++ rest) = some ((year : Int), rest) := by
  have hds : ∀ c ∈ digitChars year, c.isDigit = true := fun _ => Binary64.isDigit_of_mem_digitChars
  have hpos : 0 < (digitChars year).length := Nat.length_toDigits_pos
  have hmost : (digitChars year).length ≤ 4 :=
    Nat.toDigits_length 10 year 4 (by decide) (by omega)
  obtain ⟨d, ds, hcons⟩ := List.exists_cons_of_ne_nil (List.length_pos_iff.mp hpos)
  have hfront : d.isDigit = true := hds d (hcons ▸ List.mem_cons_self)
  rw [spanYear, dropBlanks_append hds (List.length_pos_iff.mp hpos)]
  split
  -- a sign is no digit
  · next heq =>
    rw [hcons, List.cons_append, List.cons.injEq] at heq
    rw [heq.1] at hfront
    cases hfront
  · next heq =>
    rw [hcons, List.cons_append, List.cons.injEq] at heq
    rw [heq.1] at hfront
    cases hfront
  · rw [spanNumber_append hds hpos hmost (.inr hrest), Binary64.digitsValue_digitChars]
    rfl

theorem spanFraction_padded {millis : Nat} (hmillis : millis < 1000) {rest : List Char}
    (hrest : rest.head?.all (!·.isDigit) = true) :
    spanFraction ('.' :: (padded 3 millis ++ rest)) = some (millis * 1000000, rest) := by
  have hlength : (padded 3 millis).length = 3 := length_padded (by decide) hmillis
  have hds : ∀ c ∈ padded 3 millis, c.isDigit = true := fun _ => isDigit_of_mem_padded
  have htaken : (padded 3 millis ++ rest).takeWhile Char.isDigit = padded 3 millis := by
    rw [List.takeWhile_append_of_pos hds, takeWhile_isDigit_eq_nil hrest, List.append_nil]
  have hdropped : (padded 3 millis ++ rest).dropWhile Char.isDigit = rest := by
    have happend :=
      List.takeWhile_append_dropWhile (p := Char.isDigit) (l := padded 3 millis ++ rest)
    rw [htaken] at happend
    exact List.append_cancel_left happend
  rw [spanFraction, spanNanos, htaken, hdropped, if_neg padded_ne_nil,
    List.take_of_length_le (by omega)]
  dsimp only
  rw [hlength, Binary64.digitsValue_append_replicate, digitsValue_padded, Nat.mul_comm]
  rfl

end Instant

end RecordQuery

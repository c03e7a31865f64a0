import Mathlib.Data.List.Basic
import RecordQuery.Proofs.Text.Case
import RecordQuery.Text.Soundex

/-!
# What Soundex codes

A letter behind the first one is coded with the digit of its class, unless it repeats the class of a
letter before it.  By the American rules an H or a W between the two does not keep them apart, where
a vowel does; here both do.

* `IsCoded`, `digits`, `code`: the rules, with the letters that are passed over as a parameter.
* `american`, `plain`: these letters are H and W, or none.
* `soundexDigits_eq`: the scan from a place on.
* `isCoded_plain_iff`: the letters that are coded here and not by the American rules.
* `soundex_adjacent`: the code of a text, and when it is the American one.
-/

namespace RecordQuery.Text.Soundex

/-! ### The rules -/

/-- The digit of the class of the letter at a place; zero behind the end. -/
def digitAt (letters : List Char) (i : Nat) : Char := (letters[i]?.map soundexDigit).getD '0'

section

variable (passes : Char → Bool) (letters : List Char)

/-- Whether the letters between two places are all passed over. -/
def Adjoins (i j : Nat) : Prop := ∀ k < j, i < k → letters[k]?.any passes = true

/-- Whether a letter is of the same class as one before it that adjoins it. -/
def Repeats (j : Nat) : Prop :=
  ∃ i < j, digitAt letters i = digitAt letters j ∧ Adjoins passes letters i j

/-- Whether a letter has a class and does not repeat it. -/
def IsCoded (j : Nat) : Prop := digitAt letters j ≠ '0' ∧ ¬ Repeats passes letters j

instance (i j : Nat) : Decidable (Adjoins passes letters i j) := by
  unfold Adjoins
  infer_instance

instance : DecidablePred (Repeats passes letters) := by
  unfold Repeats
  infer_instance

instance : DecidablePred (IsCoded passes letters) := by
  unfold IsCoded
  infer_instance

/-- The digits of the letters behind the first one. -/
def digits : List Char :=
  ((List.range' 1 (letters.length - 1)).filter fun j => IsCoded passes letters j).map
    (digitAt letters)

/-- The first letter and the digits, cut or filled up with zeros to four characters. -/
def code : String :=
  String.ofList (((letters.take 1 ++ digits passes letters).take 4).rightpad 4 '0')

end

/-- The letters that the American rules pass over. -/
def american (c : Char) : Bool := c == 'H' || c == 'W'

/-- No letter is passed over. -/
def plain (_ : Char) : Bool := false

/-- The letters of a text of ASCII, in upper case. -/
def capitals (text : String) : List Char := text.toList.map Char.toUpper

/-- Whether two letters of one class have an H or a W between them, and nothing else. -/
def IsParted (letters : List Char) (i j : Nat) : Prop :=
  i + 1 < j ∧ digitAt letters j ≠ '0' ∧ digitAt letters i = digitAt letters j ∧
    Adjoins american letters i j

/-! ### Places -/

theorem digitAt_of_drop {letters rest : List Char} {c : Char} {p : Nat}
    (h : letters.drop p = c :: rest) : digitAt letters p = soundexDigit c := by
  rw [digitAt, ← List.head?_drop, h]
  rfl

/-- The capitals without a class are the vowels and the two letters that the American rules pass
over. -/
theorem soundexDigit_eq_zero_iff {c : Char} (h : c.isUpper = true) :
    soundexDigit c = '0' ↔ c ∈ ['A', 'E', 'I', 'O', 'U', 'Y'] ∨ american c = true := by
  obtain ⟨i, rfl⟩ := exists_eq_ofNat_of_isUpper h
  revert i
  decide

theorem digitAt_of_american {letters : List Char} {k : Nat}
    (h : letters[k]?.any american = true) : digitAt letters k = '0' := by
  cases hk : letters[k]? with
  | none => rw [hk] at h; cases h
  | some c =>
    rw [hk] at h
    have hc : american c = true := h
    have hupper : c.isUpper = true := by
      rw [american, Bool.or_eq_true, beq_iff_eq, beq_iff_eq] at hc
      rcases hc with rfl | rfl <;> decide
    rw [digitAt, hk]
    exact (soundexDigit_eq_zero_iff hupper).mpr (.inr hc)

section

variable {letters : List Char} {i j : Nat}

theorem adjoins_succ (passes : Char → Bool) : Adjoins passes letters j (j + 1) :=
  fun k hk hlt => absurd hlt (by omega)

theorem adjoins_plain_iff (h : i < j) : Adjoins plain letters i j ↔ j = i + 1 := by
  constructor
  · intro hadjoins
    by_contra hne
    have hany := hadjoins (i + 1) (by omega) (by omega)
    cases hletter : letters[i + 1]? <;> rw [hletter] at hany <;> cases hany
  · rintro rfl
    exact adjoins_succ plain

theorem repeats_plain_succ_iff :
    Repeats plain letters (j + 1) ↔ digitAt letters j = digitAt letters (j + 1) := by
  constructor
  · rintro ⟨i, hi, hdigit, hadjoins⟩
    obtain rfl : j = i := by
      have := (adjoins_plain_iff hi).mp hadjoins
      omega
    exact hdigit
  · exact fun h => ⟨j, Nat.lt_succ_self j, h, adjoins_succ plain⟩

theorem Repeats.american_of_plain (h : Repeats plain letters j) : Repeats american letters j := by
  obtain ⟨i, hi, hdigit, hadjoins⟩ := h
  rw [adjoins_plain_iff hi] at hadjoins
  subst hadjoins
  exact ⟨i, hi, hdigit, adjoins_succ american⟩

theorem IsCoded.plain_of_american (h : IsCoded american letters j) : IsCoded plain letters j :=
  ⟨h.1, fun hrepeats => h.2 hrepeats.american_of_plain⟩

/-- **A letter that is coded here and not by the American rules** is parted from one of its class by
an H or a W. -/
theorem isCoded_plain_iff : IsCoded plain letters j ↔
    IsCoded american letters j ∨ ∃ i, IsParted letters i j := by
  constructor
  · intro hplain
    refine or_iff_not_imp_left.mpr fun hnot => ?_
    obtain ⟨i, hi, hdigit, hadjoins⟩ : Repeats american letters j :=
      not_not.mp fun hrepeats => hnot ⟨hplain.1, hrepeats⟩
    -- a neighbour would be repeated here, too
    have hne : j ≠ i + 1 := by
      rintro rfl
      exact hplain.2 (repeats_plain_succ_iff.mpr hdigit)
    exact ⟨i, by omega, hplain.1, hdigit, hadjoins⟩
  · rintro (hamerican | ⟨i, hi, hzero, -, hadjoins⟩)
    · exact hamerican.plain_of_american
    · obtain ⟨k, rfl⟩ : ∃ k, j = k + 1 := ⟨j - 1, by omega⟩
      refine ⟨hzero, fun hrepeats => hzero ?_⟩
      rw [← repeats_plain_succ_iff.mp hrepeats]
      exact digitAt_of_american (hadjoins k (by omega) (by omega))

theorem IsParted.not_isCoded (h : IsParted letters i j) : ¬ IsCoded american letters j :=
  fun hcoded => hcoded.2 ⟨i, by have := h.1; omega, h.2.2.1, h.2.2.2⟩

end

/-! ### The scan -/

/-- **The scan from a place on** collects the digits of the letters that are coded behind it. -/
theorem soundexDigits_eq {letters rest : List Char} {c : Char} {p : Nat}
    (h : letters.drop p = c :: rest) :
    soundexDigits (soundexDigit c) rest =
      ((List.range' (p + 1) rest.length).filter fun j => IsCoded plain letters j).map
        (digitAt letters) := by
  induction rest generalizing c p with
  | nil => rfl
  | cons d rest ih =>
    have hdrop : letters.drop (p + 1) = d :: rest := by
      rw [← List.drop_drop, h]
      rfl
    have hc := digitAt_of_drop h
    have hd := digitAt_of_drop hdrop
    have hcoded : IsCoded plain letters (p + 1) ↔
        soundexDigit d ≠ '0' ∧ soundexDigit d ≠ soundexDigit c := by
      rw [IsCoded, repeats_plain_succ_iff, hc, hd,
        ne_comm (a := soundexDigit d) (b := soundexDigit c)]
    rw [soundexDigits, List.length_cons, List.range'_succ, List.filter_cons, ih hdrop]
    by_cases htest : soundexDigit d ≠ '0' ∧ soundexDigit d ≠ soundexDigit c
    · rw [if_pos htest, if_pos (decide_eq_true (hcoded.mpr htest)), List.map_cons, hd]
    · rw [if_neg htest, if_neg (by rwa [decide_eq_true_iff, hcoded])]

theorem soundexDigits_eq_digits (first : Char) (rest : List Char) :
    soundexDigits (soundexDigit first) rest = digits plain (first :: rest) :=
  soundexDigits_eq (p := 0) rfl

/-! ### Codes -/

theorem take_append_zeros {c : Char} {cs : List Char} :
    (c :: cs ++ ['0', '0', '0']).take 4 = ((c :: cs).take 4).rightpad 4 '0' := by
  rcases cs with _ | ⟨d, _ | ⟨e, _ | ⟨f, cs⟩⟩⟩ <;> rfl

theorem soundex_of_toUpper {text : String} {first : Char} {rest : List Char}
    (h : toUpper text.toList = first :: rest) : soundex text = code plain (first :: rest) := by
  rw [soundex, h]
  dsimp only
  rw [soundexDigits_eq_digits, take_append_zeros]
  rfl

theorem length_code (passes : Char → Bool) (letters : List Char) :
    (code passes letters).length = 4 := by
  rw [code, String.length_ofList, List.length_rightpad]
  have := List.length_take_le 4 (letters.take 1 ++ digits passes letters)
  omega

theorem length_soundex (text : String) : (soundex text).length = 4 := by
  cases h : toUpper text.toList with
  | nil => rw [soundex, h]; rfl
  | cons first rest => rw [soundex_of_toUpper h, length_code]

theorem toUpper_eq_capitals {text : String} (h : ∀ c ∈ text.toList, c.isAlpha = true) :
    toUpper text.toList = capitals text := by
  refine toUpper_eq_map fun c hc => ?_
  have := isAlpha_iff.mp (h c hc)
  omega

theorem mem_places {passes : Char → Bool} {letters : List Char} {j : Nat} (hj : 0 < j)
    (h : IsCoded passes letters j) :
    j ∈ (List.range' 1 (letters.length - 1)).filter fun j => IsCoded passes letters j := by
  have hlt : j < letters.length := by
    refine Nat.lt_of_not_le fun hle => h.1 ?_
    rw [digitAt, List.getElem?_eq_none hle]
    rfl
  rw [List.mem_filter, List.mem_range'_1, decide_eq_true_iff]
  exact ⟨⟨hj, by omega⟩, h⟩

theorem places_american_sublist (letters : List Char) (places : List Nat) :
    (places.filter fun j => IsCoded american letters j).Sublist
      (places.filter fun j => IsCoded plain letters j) := by
  refine List.monotone_filter_right _ fun j hj => ?_
  rw [decide_eq_true_iff] at hj ⊢
  exact hj.plain_of_american

theorem digits_american_sublist (letters : List Char) :
    (digits american letters).Sublist (digits plain letters) :=
  (places_american_sublist letters _).map _

/-- The digits are the American ones exactly if no letter is parted from another one of its
class. -/
theorem digits_plain_eq_iff (letters : List Char) :
    digits plain letters = digits american letters ↔ ∀ i j, ¬ IsParted letters i j := by
  constructor
  · intro heq i j hparted
    have hlength := congrArg List.length heq
    rw [digits, digits, List.length_map, List.length_map] at hlength
    have hplaces := (places_american_sublist letters _).eq_of_length hlength.symm
    have hmem := mem_places (by have := hparted.1; omega)
      (isCoded_plain_iff.mpr (.inr ⟨i, hparted⟩))
    rw [← hplaces, List.mem_filter, decide_eq_true_iff] at hmem
    exact hparted.not_isCoded hmem.2
  · intro hnone
    have hcoded : ∀ j, IsCoded plain letters j ↔ IsCoded american letters j := fun j =>
      isCoded_plain_iff.trans (or_iff_left fun ⟨i, hparted⟩ => hnone i j hparted)
    simp only [digits, hcoded]

/-- **The code of a text** has four characters.  For a text of ASCII letters they are the first
letter in upper case and the digits of the letters that do not repeat the class of their neighbour.
The digits that the American rules want are among those, and they are all of them exactly if no two
letters of one class have an H or a W between them and nothing else; then the code is the American
one. -/
theorem soundex_adjacent (text : String) :
    (soundex text).length = 4 ∧
    (text ≠ "" → (∀ c ∈ text.toList, c.isAlpha = true) →
      soundex text = code plain (capitals text) ∧
      (digits american (capitals text)).Sublist (digits plain (capitals text)) ∧
      (digits plain (capitals text) = digits american (capitals text) ↔
        ∀ i j, ¬ IsParted (capitals text) i j) ∧
      ((∀ i j, ¬ IsParted (capitals text) i j) →
        soundex text = code american (capitals text))) := by
  refine ⟨length_soundex text, fun hne halpha => ?_⟩
  have hcode : soundex text = code plain (capitals text) := by
    cases htext : text.toList with
    | nil => exact absurd (String.toList_eq_nil_iff.mp htext) hne
    | cons first rest =>
      have hcapitals : capitals text = first.toUpper :: rest.map Char.toUpper := by
        rw [capitals, htext, List.map_cons]
      rw [soundex_of_toUpper ((toUpper_eq_capitals halpha).trans hcapitals), hcapitals]
  have hdigits := digits_plain_eq_iff (capitals text)
  refine ⟨hcode, digits_american_sublist _, hdigits, fun hnone => ?_⟩
  rw [hcode, code, code, hdigits.mpr hnone]

/-- The first two letters of Pfister are of one class. -/
theorem soundex_adjacent_pfister :
    soundex "Pfister" = code american (capitals "Pfister") ∧
      code american (capitals "Pfister") = "P236" := by
  have halpha : "Pfister".toList.all Char.isAlpha = true := by decide
  obtain ⟨-, -, hiff, hamerican⟩ :=
    (soundex_adjacent "Pfister").2 (by decide) (List.all_eq_true.mp halpha)
  exact ⟨hamerican (hiff.mp (by decide +kernel)), by decide +kernel⟩

/-- The H of Ashcraft parts S from C, which have one digit together by the American rules. -/
theorem not_american_ashcraft :
    soundex "Ashcraft" = "A226" ∧ code american (capitals "Ashcraft") = "A261" := by
  decide +kernel

end RecordQuery.Text.Soundex

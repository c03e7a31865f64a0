import RecordQuery.Text.Case

/-!
# Lower case and the letters of ASCII

`Char.toLower` changes the capital letters of ASCII and no other character.  What does not tell
these from their small letters is the same before and after it.

* `forall_toLower`: it is enough to look at the 26 capitals.
* `toLower_map_toLower`: the lower-case form of a text does not depend on the case of its ASCII
  letters, although a sigma has another form at the end of a word.
* `toLower_eq_self`: a text of ASCII without capitals is its own lower-case form.
* `toUpper_eq_map`: the upper-case form of a text of ASCII is that of its characters.
-/

namespace RecordQuery.Text

theorem isUpper_iff {c : Char} : c.isUpper = true ↔ 65 ≤ c.toNat ∧ c.toNat ≤ 90 :=
  decide_eq_true_iff

theorem isLower_iff {c : Char} : c.isLower = true ↔ 97 ≤ c.toNat ∧ c.toNat ≤ 122 := by
  show (decide (97 ≤ c.val) && decide (c.val ≤ 122)) = true ↔ _
  rw [Bool.and_eq_true, decide_eq_true_iff, decide_eq_true_iff]
  rfl

theorem isAlpha_iff {c : Char} : c.isAlpha = true ↔
    65 ≤ c.toNat ∧ c.toNat ≤ 90 ∨ 97 ≤ c.toNat ∧ c.toNat ≤ 122 := by
  show (c.isUpper || c.isLower) = true ↔ _
  rw [Bool.or_eq_true, isUpper_iff, isLower_iff]

theorem toLower_of_not_isUpper {c : Char} (h : ¬c.isUpper = true) : c.toLower = c :=
  dif_neg fun hbounds => h (decide_eq_true hbounds)

theorem exists_eq_ofNat_of_isUpper {c : Char} (h : c.isUpper = true) :
    ∃ i : Fin 26, c = Char.ofNat (65 + i) := by
  obtain ⟨hlow, hhigh⟩ := isUpper_iff.mp h
  refine ⟨⟨c.toNat - 65, by omega⟩, ?_⟩
  rw [show 65 + (c.toNat - 65) = c.toNat by omega, Char.ofNat_toNat]

/-- A function that takes the 26 capitals where it takes their small letters does not see case. -/
theorem forall_toLower {α : Type} {f : Char → α}
    (h : ∀ i : Fin 26, f (Char.ofNat (65 + i)).toLower = f (Char.ofNat (65 + i))) (c : Char) :
    f c.toLower = f c := by
  by_cases hc : c.isUpper = true
  · obtain ⟨i, rfl⟩ := exists_eq_ofNat_of_isUpper hc
    exact h i
  · rw [toLower_of_not_isUpper hc]

theorem isCased_toLower (c : Char) : isCased c.toLower = isCased c :=
  forall_toLower (by decide +kernel) c

/-- Whether ranges leave out the letters of ASCII. -/
def CodeRanges.withoutLetters (ranges : CodeRanges) : Bool :=
  ranges.all fun range =>
    (range.2 < 65 || 90 < range.1) && (range.2 < 97 || 122 < range.1)

theorem CodeRanges.contains_eq_false_of_isAlpha {ranges : CodeRanges}
    (h : ranges.withoutLetters = true) {c : Char} (hc : c.isAlpha = true) :
    ranges.contains c.toNat = false := by
  have hcode := isAlpha_iff.mp hc
  rw [contains, List.any_eq_false]
  intro range hrange
  have hrange := List.all_eq_true.mp h range hrange
  simp only [Bool.and_eq_true, Bool.or_eq_true, decide_eq_true_eq] at hrange ⊢
  omega

/-- The range that a word of a table stands for. -/
def CodeRanges.ofWord (word : List Char) : Nat × Nat :=
  match splitOn (· == '-') word with
  | [first, last] => (hexValue first, hexValue last)
  | _ => (hexValue word, hexValue word)

/-- A table is read line by line, each from its characters. -/
theorem CodeRanges.ofHex_cons (line : List Char) (lines : List String) :
    ofHex (String.ofList line :: lines) =
      (splitOn (· == ' ') line).map ofWord ++ ofHex lines := by
  rw [ofHex, List.flatMap_cons, String.toList_ofList]
  rfl

theorem CodeRanges.withoutLetters_ofHex_cons {line : List Char} {lines : List String}
    (hline : withoutLetters ((splitOn (· == ' ') line).map ofWord) = true)
    (hlines : (ofHex lines).withoutLetters = true) :
    (ofHex (String.ofList line :: lines)).withoutLetters = true := by
  rw [ofHex_cons, withoutLetters, List.all_append, Bool.and_eq_true]
  exact ⟨hline, hlines⟩

theorem withoutLetters_caseIgnorable : caseIgnorable.withoutLetters = true := by
  unfold caseIgnorable
  repeat refine CodeRanges.withoutLetters_ofHex_cons (by decide +kernel) ?_
  rfl

theorem withoutLetters_recentCaseIgnorable : recentCaseIgnorable.withoutLetters = true := by
  unfold recentCaseIgnorable
  repeat refine CodeRanges.withoutLetters_ofHex_cons (by decide +kernel) ?_
  rfl

theorem isCaseIgnorable_eq_false_of_isAlpha {c : Char} (h : c.isAlpha = true) :
    isCaseIgnorable c = false := by
  rw [isCaseIgnorable, CodeRanges.contains_eq_false_of_isAlpha withoutLetters_caseIgnorable h,
    CodeRanges.contains_eq_false_of_isAlpha withoutLetters_recentCaseIgnorable h, Bool.or_self]

theorem isCaseIgnorable_toLower (c : Char) : isCaseIgnorable c.toLower = isCaseIgnorable c := by
  have hcapital : ∀ i : Fin 26, (Char.ofNat (65 + i)).isAlpha = true := by decide
  have hsmall : ∀ i : Fin 26, (Char.ofNat (65 + i)).toLower.isAlpha = true := by decide
  refine forall_toLower (fun i => ?_) c
  rw [isCaseIgnorable_eq_false_of_isAlpha (hcapital i),
    isCaseIgnorable_eq_false_of_isAlpha (hsmall i)]

theorem lowerChar_toLower (c : Char) : lowerChar c.toLower = lowerChar c :=
  forall_toLower (by decide +kernel) c

theorem toLower_eq_capitalSigma_iff (c : Char) : c.toLower = capitalSigma ↔ c = capitalSigma :=
  iff_of_eq (forall_toLower (f := (· = capitalSigma)) (by decide) c)

theorem meetsCased_map_toLower (cs : List Char) :
    meetsCased (cs.map Char.toLower) = meetsCased cs := by
  have hignored : isCaseIgnorable ∘ Char.toLower = isCaseIgnorable := funext isCaseIgnorable_toLower
  rw [meetsCased, meetsCased, List.dropWhile_map, hignored]
  cases cs.dropWhile isCaseIgnorable with
  | nil => rfl
  | cons c rest => exact isCased_toLower c

theorem lowerAfter_map_toLower (before cs : List Char) :
    lowerAfter (before.map Char.toLower) (cs.map Char.toLower) = lowerAfter before cs := by
  induction cs generalizing before with
  | nil => rfl
  | cons c rest ih =>
    rw [List.map_cons, lowerAfter, lowerAfter, ← List.map_cons, ih, meetsCased_map_toLower,
      meetsCased_map_toLower, lowerChar_toLower]
    simp only [toLower_eq_capitalSigma_iff]

/-- **The lower-case form of a text does not depend on the case of its ASCII letters.** -/
theorem toLower_map_toLower (cs : List Char) : toLower (cs.map Char.toLower) = toLower cs :=
  lowerAfter_map_toLower [] cs

theorem lowerAfter_eq_self {cs : List Char} (h : ∀ c ∈ cs, c.toNat < 128 ∧ ¬c.isUpper = true)
    (before : List Char) : lowerAfter before cs = cs := by
  induction cs generalizing before with
  | nil => rfl
  | cons c rest ih =>
    rw [List.forall_mem_cons] at h
    have hsigma : c ≠ capitalSigma := by
      rintro rfl
      exact absurd h.1.1 (by decide)
    rw [lowerAfter, if_neg hsigma, ih h.2, lowerChar, if_pos h.1.1, toLower_of_not_isUpper h.1.2]
    rfl

/-- A text of ASCII without capitals is its own lower-case form. -/
theorem toLower_eq_self {cs : List Char} (h : ∀ c ∈ cs, c.toNat < 128 ∧ ¬c.isUpper = true) :
    toLower cs = cs := lowerAfter_eq_self h []

/-- The upper-case form of a text of ASCII is that of its characters. -/
theorem toUpper_eq_map {cs : List Char} (h : ∀ c ∈ cs, c.toNat < 128) :
    toUpper cs = cs.map Char.toUpper := by
  induction cs with
  | nil => rfl
  | cons c rest ih =>
    rw [List.forall_mem_cons] at h
    rw [toUpper, List.flatMap_cons, upperChar, if_pos h.1, ← toUpper, ih h.2]
    rfl

end RecordQuery.Text

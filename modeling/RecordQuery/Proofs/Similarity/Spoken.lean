import RecordQuery.Proofs.Similarity.Composition
import RecordQuery.Proofs.Similarity.Naming
import RecordQuery.Proofs.Similarity.Numeral
import RecordQuery.Proofs.Similarity.Scanning

/-!
# Numerals among the tokens

The scan of a text takes numerals with a point in front of all digits, as in `.5`.  What reads a
token as a number asks for the form `[0-9]+(\.[0-9]+)?`, with a digit before the point.  So such a
numeral is a word for its length and its codes, and of a word the digits have no codes.

* `Token.Shaped`: what the scan produces.
* `Form.numeral`, `Form.number`: the forms of the scan and of the reading.
* `isSpoken_iff`: a token is read as a number exactly if it has the second form.
* `Encoder.tokenCodes_spoken`, `Encoder.tokenCodes_unspoken`: the codes of a numeral with and
  without digits before the point.
* `fraction_eq_of_codes`: the digits behind the point are read off the codes of a spoken numeral.
* `Encoder.numeral_tokens`: lengths and codes of all numerals, and which of them share their codes.
* `Encoder.not_spoken_pointed`: a numeral that is not read as a number.
-/

namespace RecordQuery.Similarity

namespace Form

/-- The form `[0-9]*\.[0-9]+|[0-9]+`. -/
def numeral : Form := .either decimal digits

/-- The form `[0-9]+(\.[0-9]+)?`. -/
def number : Form := .seq digits (.either fraction .empty)

/-- Whether a form matches a whole text. -/
def Fits (form : Form) (cs : List Char) : Prop := [] ∈ form.rests cs

end Form

namespace Token

/-- What a scan produces: numerals of digits, and words that do not begin with a numeral. -/
inductive Shaped : Token → Prop
  | numeral {whole fraction : List Char} (hdigits : ∀ d ∈ whole ++ fraction, d.isDigit = true)
      (hne : whole ++ fraction ≠ []) : Shaped (.numeral whole fraction)
  | word {c : Char} {cs : List Char} (hdigit : c.isDigit = false)
      (hfraction : fractionDigits (c :: cs) = []) : Shaped (.word (c :: cs))

/-! ### The shape of tokens -/

section

variable {whole fraction : List Char} (h : (Token.numeral whole fraction).Shaped)

include h

theorem Shaped.isDigit : ∀ d ∈ whole ++ fraction, d.isDigit = true := by
  cases h with
  | numeral hdigits => exact hdigits

theorem Shaped.append_ne_nil : whole ++ fraction ≠ [] := by
  cases h with
  | numeral _ hne => exact hne

end

theorem fractionDigits_cons_takeWhile (c : Char) (cs : List Char) :
    fractionDigits (c :: cs.takeWhile fun c => !Text.isBlank c) = fractionDigits (c :: cs) := by
  by_cases hc : c = '.'
  · subst hc
    change (cs.takeWhile fun c => !Text.isBlank c).takeWhile Char.isDigit =
      cs.takeWhile Char.isDigit
    rw [List.takeWhile_takeWhile]
    congr 1
    funext d
    cases hd : d.isDigit with
    | false => simp
    | true => simp [not_isBlank_of_isDigit hd]
  · rw [fractionDigits_of_ne hc, fractionDigits_of_ne hc]

theorem shaped_next {c : Char} (h : Text.isBlank c = false) (cs : List Char) :
    (next (c :: cs)).1.Shaped := by
  have hwhole : ∀ d ∈ (c :: cs).takeWhile Char.isDigit, d.isDigit = true := fun d hd =>
    List.mem_takeWhile_imp hd
  by_cases hfraction : fractionDigits ((c :: cs).dropWhile Char.isDigit) = []
  · by_cases hnone : (c :: cs).takeWhile Char.isDigit = []
    · rw [next_of_word hfraction hnone]
      have hdigit : c.isDigit = false := by
        cases hc : c.isDigit with
        | false => rfl
        | true => simp [hc] at hnone
      rw [List.dropWhile_cons_of_neg (by simp [hdigit])] at hfraction
      rw [List.takeWhile_cons_of_pos (by simp [h])]
      refine .word hdigit ?_
      rw [← hfraction]
      exact fractionDigits_cons_takeWhile c cs
    · rw [next_of_whole hfraction hnone]
      exact .numeral (by simpa using hwhole) (by simpa using hnone)
  · rw [next_of_fraction hfraction]
    refine .numeral (List.forall_mem_append.mpr ⟨hwhole, fun d hd => ?_⟩) ?_
    · exact isDigit_of_mem_fractionDigits hd
    · exact List.append_ne_nil_of_right_ne_nil _ hfraction

theorem shaped_of_mem_readAll {cs : List Char} {token : Token} (h : token ∈ readAll cs) :
    token.Shaped := by
  induction cs using readAll.induct with
  | case1 => rw [readAll_nil] at h; cases h
  | case2 c rest hblank ih =>
    rw [readAll_of_isBlank hblank] at h
    exact ih h
  | case3 c rest hblank ih =>
    rw [readAll_of_not_isBlank hblank, List.mem_cons] at h
    rcases h with rfl | h
    · exact shaped_next (by simpa using hblank) rest
    · exact ih h

end Token

/-! ### The forms of numerals -/

namespace Form

variable {ds whole fraction : List Char}

theorem takeWhile_digits_append (h : ∀ d ∈ ds, d.isDigit = true) {rest : List Char}
    (hrest : rest.takeWhile Char.isDigit = []) : (ds ++ rest).takeWhile Char.isDigit = ds := by
  rw [List.takeWhile_append_of_pos h, hrest, List.append_nil]

theorem dropWhile_digits_append (h : ∀ d ∈ ds, d.isDigit = true) {rest : List Char}
    (hrest : rest.takeWhile Char.isDigit = []) : (ds ++ rest).dropWhile Char.isDigit = rest := by
  have hparts := List.takeWhile_append_dropWhile (p := Char.isDigit) (l := ds ++ rest)
  rw [takeWhile_digits_append h hrest] at hparts
  exact List.append_cancel_left hparts

theorem mem_rests_digits (hne : ds ≠ []) (h : ∀ d ∈ ds, d.isDigit = true) {rest : List Char}
    (hrest : rest.takeWhile Char.isDigit = []) : rest ∈ digits.rests (ds ++ rest) := by
  refine List.mem_of_mem_head? ?_
  rw [digits, head?_rests_oneOrMore, takeWhile_digits_append h hrest, if_neg hne,
    dropWhile_digits_append h hrest]
  rfl

theorem fits_digits (hne : ds ≠ []) (h : ∀ d ∈ ds, d.isDigit = true) : digits.Fits ds := by
  have hmem := mem_rests_digits hne h (show [].takeWhile Char.isDigit = [] from rfl)
  rwa [List.append_nil] at hmem

theorem rests_digits_cons {c : Char} (h : c.isDigit = false) (cs : List Char) :
    digits.rests (c :: cs) = [] := by
  simp [digits, oneOrMore, rests, h]

theorem fits_fraction (hne : fraction ≠ []) (h : ∀ d ∈ fraction, d.isDigit = true) :
    Form.fraction.Fits ('.' :: fraction) := by
  rw [Fits, rests_fraction_point]
  exact fits_digits hne h

theorem fits_numeral {whole fraction : List Char}
    (h : ∀ d ∈ whole ++ fraction, d.isDigit = true) (hne : whole ++ fraction ≠ []) :
    numeral.Fits (Token.numeral whole fraction).chars := by
  rw [List.forall_mem_append] at h
  rw [Fits, numeral, rests, List.mem_append]
  by_cases hfraction : fraction = []
  · subst hfraction
    rw [List.append_nil] at hne
    exact Or.inr (fits_digits hne h.1)
  · left
    rw [Token.chars_numeral hfraction, rests_decimal, dropWhile_digits_append h.1 (by rfl)]
    exact fits_fraction hfraction h.2

theorem fits_number {whole fraction : List Char} (hne : whole ≠ [])
    (h : ∀ d ∈ whole ++ fraction, d.isDigit = true) :
    number.Fits (Token.numeral whole fraction).chars := by
  rw [List.forall_mem_append] at h
  rw [Fits, number, rests, List.mem_flatMap]
  by_cases hfraction : fraction = []
  · subst hfraction
    exact ⟨[], fits_digits hne h.1, List.mem_append_right _ (List.mem_singleton_self _)⟩
  · rw [Token.chars_numeral hfraction]
    exact ⟨'.' :: fraction, mem_rests_digits hne h.1 rfl,
      List.mem_append_left _ (fits_fraction hfraction h.2)⟩

theorem not_fits_number_cons {c : Char} (h : c.isDigit = false) (cs : List Char) :
    ¬number.Fits (c :: cs) := by
  rw [Fits, number, rests, rests_digits_cons h]
  exact List.not_mem_nil

theorem not_fits_numeral_cons {c : Char} {cs : List Char} (h : c.isDigit = false)
    (hfraction : Token.fractionDigits (c :: cs) = []) : ¬numeral.Fits (c :: cs) := by
  have hdecimal : decimal.rests (c :: cs) = [] := by
    rw [rests_decimal, List.dropWhile_cons_of_neg (by simp [h]), ← List.head?_eq_none_iff,
      head?_rests_fraction, if_pos hfraction]
  rw [Fits, numeral, rests, hdecimal, rests_digits_cons h]
  exact List.not_mem_nil

end Form

namespace Token.Shaped

variable {token : Token}

theorem fits_numeral_iff (h : token.Shaped) :
    Form.numeral.Fits token.chars ↔ ∃ whole fraction, token = .numeral whole fraction := by
  cases h with
  | numeral hdigits hne => exact ⟨fun _ => ⟨_, _, rfl⟩, fun _ => Form.fits_numeral hdigits hne⟩
  | word hdigit hfraction =>
    refine ⟨fun hfits => absurd hfits (Form.not_fits_numeral_cons hdigit hfraction), ?_⟩
    rintro ⟨whole, fraction, heq⟩
    cases heq

/-- **A token is read as a number exactly if it has the form of one.** -/
theorem isSpoken_iff (h : token.Shaped) :
    token.isSpoken = true ↔ Form.number.Fits token.chars := by
  cases h with
  | @numeral whole fraction hdigits hne =>
    rw [isSpoken, bne_iff_ne]
    refine ⟨fun hwhole => Form.fits_number hwhole hdigits, fun hfits hwhole => ?_⟩
    subst hwhole
    -- without digits before the point the text begins with it
    rw [List.nil_append] at hne
    rw [chars_numeral hne, List.nil_append] at hfits
    exact Form.not_fits_number_cons (by decide) fraction hfits
  | word hdigit =>
    refine ⟨fun hspoken => ?_, fun hfits => absurd hfits (Form.not_fits_number_cons hdigit _)⟩
    cases hspoken

end Token.Shaped

/-! ### Lengths -/

theorem filter_isDigit {ds : List Char} (h : ∀ d ∈ ds, d.isDigit = true) :
    ds.filter Char.isDigit = ds := List.filter_eq_self.mpr h

theorem Token.length_numeral {whole fraction : List Char}
    (h : (Token.numeral whole fraction).Shaped) :
    (Token.numeral whole fraction).length =
      whole.length + fraction.length + if whole = [] then 1 else 0 := by
  have hne := h.append_ne_nil
  have hdigits := List.forall_mem_append.mp h.isDigit
  by_cases hwhole : whole = []
  · subst hwhole
    rw [List.nil_append] at hne
    rw [length, if_neg (by simp [isSpoken]), chars_numeral hne, if_pos rfl]
    simp
  · have hspoken : (Token.numeral whole fraction).isSpoken = true := bne_iff_ne.mpr hwhole
    rw [length, if_pos hspoken, if_neg hwhole]
    by_cases hfraction : fraction = []
    · subst hfraction
      rw [chars, filter_isDigit hdigits.1]
      rfl
    · rw [chars_numeral hfraction, List.filter_append, filter_isDigit hdigits.1,
        List.filter_cons_of_neg (by decide), filter_isDigit hdigits.2, List.length_append]
      rfl

/-! ### The codes of readings -/

/-- The characters of the words for places. -/
def placeMarks : List Char := ['십', '백', '천', '만', '억', '조', '경', '자']

/-- The characters that integers are read with. -/
def integerMarks : List Char := digitWords ++ placeMarks

theorem digitWord_mem {d : Char} (h : d.isDigit = true) : digitWord d ∈ integerMarks := by
  have hall : (decimalDigits.all fun d => integerMarks.contains (digitWord d)) = true := by decide
  exact List.contains_iff_mem.mp (List.all_eq_true.mp hall d (mem_decimalDigits h))

theorem mem_of_mem_placeChars {place : Nat} {c : Char} (h : c ∈ placeChars place) :
    c ∈ integerMarks :=
  List.contains_iff_mem.mp (@forall_mem_placeChars integerMarks.contains (by decide) _ _ h)

theorem mem_of_mem_readPlaces {ds : List Char} (h : ∀ d ∈ ds, d.isDigit = true) {c : Char}
    (hc : c ∈ readPlaces ds) : c ∈ integerMarks := by
  induction ds with
  | nil => cases hc
  | cons d ds ih =>
    rw [List.forall_mem_cons] at h
    by_cases hd : d = '0'
    · rw [hd, readPlaces_zero_cons] at hc
      exact ih h.2 hc
    · rw [readPlaces_cons hd, List.cons_append, List.mem_cons, List.mem_append] at hc
      rcases hc with rfl | hc | hc
      · exact digitWord_mem h.1
      · exact mem_of_mem_placeChars hc
      · exact ih h.2 hc

theorem mem_of_mem_readOut {ds : List Char} (h : ∀ d ∈ ds, d.isDigit = true) {c : Char}
    (hc : c ∈ readOut ds) : c ∈ integerMarks := by
  unfold readOut at hc
  split at hc
  · rw [List.mem_singleton.mp hc]
    exact digitWord_mem (by decide)
  · next rest hrest =>
    refine mem_of_mem_readPlaces (fun d hd => h d ?_) hc
    exact (List.dropWhile_sublist _).subset hd

theorem mem_of_mem_map_digitWord {ds : List Char} (h : ∀ d ∈ ds, d.isDigit = true) {c : Char}
    (hc : c ∈ ds.map digitWord) : c ∈ integerMarks := by
  obtain ⟨d, hd, rfl⟩ := List.mem_map.mp hc
  exact digitWord_mem (h d hd)

theorem mem_of_mem_readOutDecimal {whole fraction : List Char}
    (h : ∀ d ∈ whole ++ fraction, d.isDigit = true) {c : Char}
    (hc : c ∈ readOutDecimal whole fraction) : c ∈ pointWord :: integerMarks := by
  rw [List.forall_mem_append] at h
  rw [readOutDecimal] at hc
  split at hc
  · exact List.mem_cons_of_mem _ (mem_of_mem_readOut h.1 hc)
  · rw [List.mem_append, List.mem_cons] at hc
    rcases hc with hc | rfl | hc
    · exact List.mem_cons_of_mem _ (mem_of_mem_readOut h.1 hc)
    · exact List.mem_cons_self
    · exact List.mem_cons_of_mem _ (mem_of_mem_map_digitWord h.2 hc)

theorem codeOf_pointWord_not_mem {cs : List Char} (h : ∀ c ∈ cs, c ∈ integerMarks) :
    codeOf pointWord ∉ cs.map codeOf := by
  have hall : (integerMarks.all fun c => codeOf c != codeOf pointWord) = true := by decide
  intro hmem
  obtain ⟨c, hc, heq⟩ := List.mem_map.mp hmem
  exact bne_iff_ne.mp (List.all_eq_true.mp hall c (h c hc)) heq

theorem eq_of_codeOf_digitWord {d e : Char} (hd : d.isDigit = true) (he : e.isDigit = true)
    (h : codeOf (digitWord d) = codeOf (digitWord e)) : d = e := by
  have hall : (decimalDigits.all fun d => decimalDigits.all fun e =>
      codeOf (digitWord d) != codeOf (digitWord e) || d == e) = true := by decide
  have hpair := List.all_eq_true.mp (List.all_eq_true.mp hall d (mem_decimalDigits hd)) e
    (mem_decimalDigits he)
  simpa [h] using hpair

theorem eq_of_map_codeOf_digitWord {a b : List Char} (ha : ∀ d ∈ a, d.isDigit = true)
    (hb : ∀ d ∈ b, d.isDigit = true)
    (h : (a.map digitWord).map codeOf = (b.map digitWord).map codeOf) : a = b := by
  induction a generalizing b with
  | nil =>
    cases b with
    | nil => rfl
    | cons e b => cases h
  | cons d a ih =>
    cases b with
    | nil => cases h
    | cons e b =>
      rw [List.forall_mem_cons] at ha hb
      simp only [List.map_cons, List.cons.injEq] at h
      rw [eq_of_codeOf_digitWord ha.1 hb.1 h.1, ih ha.2 hb.2 h.2]

section

variable {whole fraction whole' fraction' : List Char}

theorem map_codeOf_readOutDecimal (hne : fraction ≠ []) (whole : List Char) :
    (readOutDecimal whole fraction).map codeOf =
      (readOut whole).map codeOf ++ codeOf pointWord :: (fraction.map digitWord).map codeOf := by
  rw [readOutDecimal, if_neg hne, List.map_append, List.map_cons]

theorem codeOf_pointWord_mem_iff (h : ∀ d ∈ whole ++ fraction, d.isDigit = true) :
    codeOf pointWord ∈ (readOutDecimal whole fraction).map codeOf ↔ fraction ≠ [] := by
  rw [List.forall_mem_append] at h
  by_cases hfraction : fraction = []
  · subst hfraction
    have hnot := codeOf_pointWord_not_mem fun c hc => mem_of_mem_readOut h.1 hc
    exact ⟨fun hmem => absurd hmem hnot, fun hne => absurd rfl hne⟩
  · rw [map_codeOf_readOutDecimal hfraction]
    simp [hfraction]

/-- **The digits behind the point are read off the codes of a spoken numeral.** -/
theorem fraction_eq_of_codes (h : ∀ d ∈ whole ++ fraction, d.isDigit = true)
    (h' : ∀ d ∈ whole' ++ fraction', d.isDigit = true)
    (hcodes : (readOutDecimal whole fraction).map codeOf =
      (readOutDecimal whole' fraction').map codeOf) : fraction = fraction' := by
  have hpoint := codeOf_pointWord_mem_iff h
  rw [hcodes, codeOf_pointWord_mem_iff h', not_iff_not] at hpoint
  by_cases hfraction : fraction = []
  · rw [hfraction, hpoint.mpr hfraction]
  · have hfraction' : fraction' ≠ [] := mt hpoint.mp hfraction
    rw [List.forall_mem_append] at h h'
    rw [map_codeOf_readOutDecimal hfraction, map_codeOf_readOutDecimal hfraction',
      List.append_cons_inj_of_notMem
        (codeOf_pointWord_not_mem fun c hc => mem_of_mem_readOut h.1 hc)
        (codeOf_pointWord_not_mem fun c hc => mem_of_mem_map_digitWord h.2 hc)] at hcodes
    exact eq_of_map_codeOf_digitWord h.2 h'.2 hcodes.2.2

end

/-! ### The codes of numerals -/

theorem not_isSyllable_of_isDigit {d : Char} (h : d.isDigit = true) : isSyllable d = false := by
  have hhigh := (isDigit_iff.mp h).2
  refine Bool.eq_false_iff.mpr fun hsyllable => ?_
  simp only [isSyllable, Bool.and_eq_true, decide_eq_true_eq] at hsyllable
  have hlow : 0xAC00 ≤ d.toNat := hsyllable.1
  omega

theorem romanize_point (names : Naming) {ds : List Char} (h : ∀ d ∈ ds, d.isDigit = true) :
    romanize names ('.' :: ds) = "dot".toList ++ ds := by
  have hdigit : ∀ d ∈ ds, spell names d = [d] := fun d hd =>
    spell_of_isAlphanum names (by rw [Char.isAlphanum, h d hd, Bool.or_true])
  have hdigits : ds.flatMap (spell names) = ds := by
    rw [List.flatMap_congr hdigit, List.flatMap_singleton']
  have hname : ("dot".toList.all fun c => c.toNat < 128 && !c.isUpper) = true := by decide
  have hlower : ∀ c ∈ "dot".toList ++ ds, c.toNat < 128 ∧ ¬c.isUpper = true := by
    refine List.forall_mem_append.mpr ⟨fun c hc => ?_, fun d hd => ?_⟩
    · simpa using List.all_eq_true.mp hname c hc
    · have hhigh := (isDigit_iff.mp (h d hd)).2
      refine ⟨by omega, fun hupper => ?_⟩
      have hletter := (Text.isUpper_iff.mp hupper).1
      omega
  rw [romanize, List.flatMap_cons, hdigits]
  exact Text.toLower_eq_self hlower

namespace Encoder

/-- The codes of the name of the point. -/
def pointCodes (encoder : Encoder) : List Nat :=
  (compose encoder.spelling "dot".toList).map Syllable.code

variable {whole fraction : List Char}

/-- A numeral with digits before the point is read out. -/
theorem tokenCodes_spoken (encoder : Encoder) (names : Naming) (hne : whole ≠ [])
    (h : ∀ d ∈ whole, d.isDigit = true) (fraction : List Char) :
    encoder.tokenCodes names (.numeral whole fraction) =
      (readOutDecimal whole fraction).map codeOf := by
  have hspoken : (Token.numeral whole fraction).isSpoken = true := bne_iff_ne.mpr hne
  obtain ⟨d, rest, rfl⟩ := List.exists_cons_of_ne_nil hne
  have hnative : ¬(Token.numeral (d :: rest) fraction).chars.all isSyllable = true := by
    have hd := not_isSyllable_of_isDigit (h d List.mem_cons_self)
    cases fraction <;> simp [Token.chars, hd]
  unfold tokenCodes
  rw [if_neg hnative, hspoken]

/-- A numeral without digits before the point is the name of the point, whatever its digits are. -/
theorem tokenCodes_unspoken (encoder : Encoder) (names : Naming)
    (h : (Token.numeral [] fraction).Shaped) :
    encoder.tokenCodes names (.numeral [] fraction) = encoder.pointCodes := by
  have hdigits : ∀ d ∈ fraction, d.isDigit = true := h.isDigit
  have hchars : (Token.numeral [] fraction).chars = '.' :: fraction :=
    Token.chars_numeral h.append_ne_nil []
  have hforeign : ∀ d ∈ fraction, Foreign encoder.spelling d := fun d hd =>
    foreign_of_isLower_eq_false encoder (Bool.eq_false_iff.mpr fun hlower => by
      have hletter := (Text.isLower_iff.mp hlower).1
      have hhigh := (isDigit_iff.mp (hdigits d hd)).2
      omega)
  have hnative : ¬(Token.numeral [] fraction).chars.all isSyllable = true := by
    rw [hchars]
    simp [show isSyllable '.' = false by decide]
  unfold tokenCodes
  rw [if_neg hnative]
  change (compose encoder.spelling
    (romanize names (Token.numeral [] fraction).chars)).map Syllable.code = _
  rw [hchars, romanize_point names hdigits, compose_append_marks hforeign, pointCodes]

/-- The name of the point has a code that nothing has that is read out. -/
theorem pointCodes_ne_reading (encoder : Encoder)
    (h : ∀ d ∈ whole ++ fraction, d.isDigit = true) :
    encoder.pointCodes ≠ (readOutDecimal whole fraction).map codeOf := by
  have hown : ∀ spelling ∈ [Spelling.basic, Spelling.extended],
      ∃ code ∈ (compose spelling "dot".toList).map Syllable.code,
        ((pointWord :: integerMarks).all fun c => codeOf c != code) = true := by decide +kernel
  have hspelling : encoder.spelling ∈ [Spelling.basic, Spelling.extended] := by
    rw [spelling]
    split <;> simp
  obtain ⟨code, hmem, hall⟩ := hown _ hspelling
  intro heq
  rw [← pointCodes, heq] at hmem
  obtain ⟨c, hc, hcode⟩ := List.mem_map.mp hmem
  exact bne_iff_ne.mp (List.all_eq_true.mp hall c (mem_of_mem_readOutDecimal h hc)) hcode

theorem tokenCodes_eq_reading_iff (encoder : Encoder) (names : Naming)
    (h : (Token.numeral whole fraction).Shaped) :
    encoder.tokenCodes names (.numeral whole fraction) =
      (readOutDecimal whole fraction).map codeOf ↔
      whole ≠ [] := by
  refine ⟨fun hcodes hwhole => ?_, fun hwhole =>
    encoder.tokenCodes_spoken names hwhole (List.forall_mem_append.mp h.isDigit).1 fraction⟩
  subst hwhole
  rw [encoder.tokenCodes_unspoken names h] at hcodes
  exact encoder.pointCodes_ne_reading h.isDigit hcodes

theorem tokenCodes_eq_iff (encoder : Encoder) (names : Naming) {whole' fraction' : List Char}
    (h : (Token.numeral whole fraction).Shaped) (h' : (Token.numeral whole' fraction').Shaped)
    (hne : fraction ≠ fraction') :
    encoder.tokenCodes names (.numeral whole fraction) =
        encoder.tokenCodes names (.numeral whole' fraction') ↔
      whole = [] ∧ whole' = [] := by
  constructor
  · intro hcodes
    by_cases hwhole : whole = []
    · refine ⟨hwhole, Classical.byContradiction fun hwhole' => ?_⟩
      subst hwhole
      rw [encoder.tokenCodes_unspoken names h,
        (encoder.tokenCodes_eq_reading_iff names h').mpr hwhole'] at hcodes
      exact encoder.pointCodes_ne_reading h'.isDigit hcodes
    · rw [(encoder.tokenCodes_eq_reading_iff names h).mpr hwhole] at hcodes
      by_cases hwhole' : whole' = []
      · subst hwhole'
        rw [encoder.tokenCodes_unspoken names h'] at hcodes
        exact absurd hcodes.symm (encoder.pointCodes_ne_reading h.isDigit)
      · rw [(encoder.tokenCodes_eq_reading_iff names h').mpr hwhole'] at hcodes
        exact absurd (fraction_eq_of_codes h.isDigit h'.isDigit hcodes) hne
  · rintro ⟨rfl, rfl⟩
    rw [encoder.tokenCodes_unspoken names h, encoder.tokenCodes_unspoken names h']

/--
**Numerals are read as numbers exactly if there are digits before the point.**  The numerals are the
tokens of the first two alternatives of the scan, and a token is read as a number if it has the form
of one.  The length of such a numeral is the number of its digits, and its codes are those of its
reading; of the others the point counts, and their codes are those of its name.  So the digits
behind the point are told apart by the codes, but for numerals without digits before it.
-/
theorem numeral_tokens (encoder : Encoder) (names : Naming) :
    (∀ text : String, ∀ token ∈ Token.readAll text.toList,
      (Form.numeral.Fits token.chars ↔ ∃ whole fraction, token = .numeral whole fraction) ∧
      (token.isSpoken = true ↔ Form.number.Fits token.chars) ∧
      ∀ whole fraction : List Char, token = .numeral whole fraction →
        (∀ d ∈ whole ++ fraction, d.isDigit = true) ∧
        (token.length = whole.length + fraction.length ↔ whole ≠ []) ∧
        (encoder.tokenCodes names token = (readOutDecimal whole fraction).map codeOf ↔ whole ≠ []) ∧
        (whole = [] →
          token.length = fraction.length + 1 ∧
            encoder.tokenCodes names token = encoder.pointCodes)) ∧
    ∀ (text other : String) (whole fraction whole' fraction' : List Char),
      .numeral whole fraction ∈ Token.readAll text.toList →
      .numeral whole' fraction' ∈ Token.readAll other.toList → fraction ≠ fraction' →
        (encoder.tokenCodes names (.numeral whole fraction) =
            encoder.tokenCodes names (.numeral whole' fraction') ↔
          whole = [] ∧ whole' = []) := by
  refine ⟨fun text token htoken => ?_, fun text other whole fraction whole' fraction' h h' hne =>
    encoder.tokenCodes_eq_iff names (Token.shaped_of_mem_readAll h)
      (Token.shaped_of_mem_readAll h') hne⟩
  have hshaped := Token.shaped_of_mem_readAll htoken
  refine ⟨hshaped.fits_numeral_iff, hshaped.isSpoken_iff, ?_⟩
  rintro whole fraction rfl
  rw [Token.length_numeral hshaped]
  refine ⟨hshaped.isDigit, ?_, encoder.tokenCodes_eq_reading_iff names hshaped, ?_⟩
  · by_cases hwhole : whole = [] <;> simp [hwhole]
  · rintro rfl
    exact ⟨by simp, encoder.tokenCodes_unspoken names hshaped⟩

/-- Decimals with and without digits before the point. -/
theorem numeral_tokens_mixed :
    let encoder : Encoder := { dimension := 512, dimension_pos := by decide }
    let tokens := Token.readAll "x 10.05 .5 .7".toList
    (.numeral ['1', '0'] ['0', '5'] ∈ tokens ∧ .numeral [] ['5'] ∈ tokens ∧
      .numeral [] ['7'] ∈ tokens) ∧
    (Token.numeral ['1', '0'] ['0', '5']).length = 4 ∧
    encoder.tokenCodes .sample (.numeral ['1', '0'] ['0', '5']) = "일십점영오".toList.map codeOf ∧
    (Token.numeral [] ['5']).length = 2 ∧
    encoder.tokenCodes .sample (.numeral [] ['5']) = encoder.pointCodes ∧
    encoder.tokenCodes .sample (.numeral [] ['5']) =
      encoder.tokenCodes .sample (.numeral [] ['7']) := by
  intro encoder tokens
  have htokens : tokens = [.word ['x'], .numeral ['1', '0'] ['0', '5'], .numeral [] ['5'],
      .numeral [] ['7']] := by decide +kernel
  have hspoken : .numeral ['1', '0'] ['0', '5'] ∈ tokens := by rw [htokens]; decide
  have hfive : .numeral [] ['5'] ∈ tokens := by rw [htokens]; decide
  have hseven : .numeral [] ['7'] ∈ tokens := by rw [htokens]; decide
  obtain ⟨hread, hshare⟩ := encoder.numeral_tokens .sample
  obtain ⟨-, hlength, hcodes, -⟩ := (hread _ _ hspoken).2.2 _ _ rfl
  obtain ⟨-, -, -, hunspoken⟩ := (hread _ _ hfive).2.2 _ _ rfl
  exact ⟨⟨hspoken, hfive, hseven⟩, hlength.mpr (by decide),
    (hcodes.mpr (by decide)).trans (by decide), (hunspoken rfl).1, (hunspoken rfl).2,
    (hshare _ _ _ _ _ _ hfive hseven (by decide)).mpr ⟨rfl, rfl⟩⟩

/-- A numeral that is not read as a number: its point counts, and the codes are those of the name of
the point, which another numeral has as well. -/
theorem not_spoken_pointed :
    let encoder : Encoder := { dimension := 256, dimension_pos := by decide }
    Token.readAll ".5".toList = [.numeral [] ['5']] ∧ effectiveLength ".5" = 2 ∧
      encoder.codes .sample ".5" ≠ (readOutDecimal [] ['5']).map codeOf ∧
      Token.readAll ".7".toList = [.numeral [] ['7']] ∧
      encoder.codes .sample ".5" = encoder.codes .sample ".7" := by
  intro encoder
  have hfive : encoder.codes .sample ".5" = [1995] := by decide +kernel
  have hseven : encoder.codes .sample ".7" = [1995] := by decide +kernel
  exact ⟨by decide +kernel, by decide +kernel, by rw [hfive]; decide, by decide +kernel,
    hfive.trans hseven.symm⟩

end Encoder

end RecordQuery.Similarity

import RecordQuery.Proofs.Similarity.Token
import RecordQuery.Similarity.Encoder

/-!
# What the names of characters decide

Most characters are spelt without their names: symbols have words of their own, and syllables, the
letters and digits of ASCII and white space stand for themselves.  So the codes of a text depend on
the names of its other characters alone.

* `spell_of_isAlphanum`: letters and digits of ASCII stand for themselves, whatever their names are.
* `Encoder.codes_congr`: namings that agree on the characters of a text that are named give it the
  same codes.
* `Encoder.codes_of_printable`: to texts of printable ASCII all namings give the same codes.
* `Naming.sample`: some names of the character standard.
-/

namespace RecordQuery.Similarity

variable {names others : Naming}

/-- Whether a character is spelt by its name, if it has one. -/
def asksName (c : Char) : Bool :=
  (symbolWord? c).isNone && !(isSyllable c || c.isAlphanum || Text.isBlank c)

theorem symbolWord?_of_isAlphanum {c : Char} (h : c.isAlphanum = true) : symbolWord? c = none := by
  have hmarks : (symbolWords.all fun entry => !entry.1.isAlphanum) = true := by decide
  refine List.lookup_eq_none_iff.mpr fun entry hentry => ?_
  have hentry := List.all_eq_true.mp hmarks entry hentry
  rw [bne_iff_ne]
  rintro rfl
  simp [h] at hentry

theorem spell_of_isAlphanum (names : Naming) {c : Char} (h : c.isAlphanum = true) :
    spell names c = [c] := by
  simp [spell, symbolWord?_of_isAlphanum h, h]

theorem spell_congr {c : Char} (h : asksName c = true → names c = others c) :
    spell names c = spell others c := by
  rw [spell, spell]
  cases hword : symbolWord? c with
  | some word => rfl
  | none =>
    by_cases hself : (isSyllable c || c.isAlphanum || Text.isBlank c) = true
    · rw [if_pos hself, if_pos hself]
    · rw [if_neg hself, if_neg hself, h (by simp [asksName, hword, hself])]

theorem romanize_congr {word : List Char} (h : ∀ c ∈ word, asksName c = true → names c = others c) :
    romanize names word = romanize others word := by
  rw [romanize, romanize, List.flatMap_congr fun c hc => spell_congr (h c hc)]

theorem asksName_of_printable {c : Char} (hlow : 32 ≤ c.toNat) (hhigh : c.toNat < 127) :
    asksName c = false := by
  have hall : ∀ i : Fin 95, asksName (Char.ofNat (32 + i)) = false := by decide +kernel
  have hc := hall ⟨c.toNat - 32, by omega⟩
  rwa [show 32 + (c.toNat - 32) = c.toNat by omega, Char.ofNat_toNat] at hc

namespace Encoder

theorem tokenCodes_congr (encoder : Encoder) {token : Token}
    (h : ∀ c ∈ token.chars, asksName c = true → names c = others c) :
    encoder.tokenCodes names token = encoder.tokenCodes others token := by
  unfold tokenCodes
  split
  · rfl
  · split
    · rfl
    · rw [romanize_congr h]

/-- **The codes of a text depend on the names of those of its characters that are named.** -/
theorem codes_congr (encoder : Encoder) {text : String}
    (h : ∀ c ∈ text.toList, asksName c = true → names c = others c) :
    encoder.codes names text = encoder.codes others text := by
  have htokens : ∀ token ∈ Token.readAll text.toList,
      encoder.tokenCodes names token = encoder.tokenCodes others token := fun token htoken => by
    refine encoder.tokenCodes_congr fun c hc => h c ?_
    have hflat : c ∈ (Token.readAll text.toList).flatMap Token.chars :=
      List.mem_flatMap.mpr ⟨token, htoken, hc⟩
    rw [Token.flatMap_chars_readAll] at hflat
    exact (List.mem_filter.mp hflat).1
  rw [codes, codes, List.map_congr_left htokens]

/-- The codes of printable ASCII do not depend on any names. -/
theorem codes_of_printable (encoder : Encoder) (names others : Naming) {text : String}
    (h : ∀ c ∈ text.toList, 32 ≤ c.toNat ∧ c.toNat < 127) :
    encoder.codes names text = encoder.codes others text := by
  refine encoder.codes_congr fun c hc hasks => ?_
  rw [asksName_of_printable (h c hc).1 (h c hc).2] at hasks
  cases hasks

end Encoder

/-- The names that the character standard gives to letters of ASCII and to some other characters. -/
def Naming.sample : Naming := fun c =>
  if c.isUpper then some ("LATIN CAPITAL LETTER ".toList ++ [c])
  else if c.isLower then some ("LATIN SMALL LETTER ".toList ++ [c.toUpper])
  else
    ([(' ', "SPACE"), ('!', "EXCLAMATION MARK"), ('.', "FULL STOP"), ('0', "DIGIT ZERO"),
      ('1', "DIGIT ONE"), ('2', "DIGIT TWO"), ('3', "DIGIT THREE"), ('5', "DIGIT FIVE"),
      ('7', "DIGIT SEVEN"), ('é', "LATIN SMALL LETTER E WITH ACUTE"),
      ('\u3000', "IDEOGRAPHIC SPACE"), ('가', "HANGUL SYLLABLE GA"),
      ('나', "HANGUL SYLLABLE NA")].lookup c).map String.toList

/-- A letter with an accent is spelt by its name. -/
example : romanize .sample ['n', 'é'] = "nlatin small letter e with acute".toList := by
  decide +kernel

end RecordQuery.Similarity

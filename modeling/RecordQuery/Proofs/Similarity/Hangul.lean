import Mathlib.Data.List.Flatten
import RecordQuery.Proofs.Similarity.Composition
import RecordQuery.Proofs.Similarity.Naming

/-!
# Hangul in the codes of a text

A token of syllables alone is written as their places in the block.  In any other word the syllables
are kept by the romanisation, but composition finds no spelling for them and passes over them.

* `isAssigned`, `offsets`: the assigned syllables of a text, and their places in the block.
* `nativeText`: the tokens of a text that are in syllables alone.
* `Encoder.flatMap_sublist_codes`: the codes of the tokens stand in those of the text.
* `Encoder.offsets_sublist_codes`: the places of the syllables stand in the codes of a text without
  words that mix them with other characters; in such a word they are only gaps between what is
  composed.
* `Encoder.not_sublist_codes_mixed`: a syllable with a mark behind it is lost.
-/

namespace RecordQuery.Similarity

/-- Whether a character is an assigned syllable of the block. -/
def isAssigned (c : Char) : Bool :=
  firstSyllable ≤ c.toNat && c.toNat < firstSyllable + syllableCount

/-- The places in the block of the assigned syllables of a text, in their order. -/
def offsets (cs : List Char) : List Nat :=
  (cs.filter isAssigned).map fun c => c.toNat - firstSyllable

/-- Whether a token is in syllables alone. -/
def isNative (token : Token) : Bool := token.chars.all isSyllable

/-- The tokens of a text that are in syllables alone, joined. -/
def nativeText (cs : List Char) : List Char :=
  ((Token.readAll cs).filter isNative).flatMap Token.chars

/-! ### Syllables and their places -/

theorem codeOf_of_isAssigned {c : Char} (h : isAssigned c = true) :
    codeOf c = c.toNat - firstSyllable := by
  simp only [isAssigned, Bool.and_eq_true, decide_eq_true_eq] at h
  rw [codeOf, if_pos h.1, withinBlock, if_pos (by omega)]

theorem not_isBlank_of_isAssigned {c : Char} (h : isAssigned c = true) :
    Text.isBlank c = false := by
  simp only [isAssigned, Bool.and_eq_true, decide_eq_true_eq] at h
  have hlow : 0xAC00 ≤ c.toNat := h.1
  exact Token.not_isBlank_of_code (Or.inr (by omega))

theorem offsets_sublist_map_codeOf (cs : List Char) : (offsets cs).Sublist (cs.map codeOf) := by
  have hcodes : offsets cs = (cs.filter isAssigned).map codeOf :=
    List.map_congr_left fun c hc => (codeOf_of_isAssigned (List.mem_filter.1 hc).2).symm
  rw [hcodes]
  exact List.filter_sublist.map codeOf

theorem offsets_flatMap {α : Type} (f : α → List Char) (xs : List α) :
    offsets (xs.flatMap f) = xs.flatMap fun x => offsets (f x) := by
  rw [offsets, List.filter_flatMap, List.map_flatMap]
  rfl

theorem offsets_eq_nil {cs : List Char} (h : cs.any isAssigned = false) : offsets cs = [] := by
  rw [offsets, List.map_eq_nil_iff, List.filter_eq_nil_iff]
  simpa using h

theorem offsets_eq_flatMap (cs : List Char) :
    offsets cs = (Token.readAll cs).flatMap fun token => offsets token.chars := by
  have hfilter : (cs.filter fun c => !Text.isBlank c).filter isAssigned = cs.filter isAssigned := by
    rw [List.filter_filter]
    refine List.filter_congr fun c _ => ?_
    cases h : isAssigned c with
    | false => rfl
    | true => simp [not_isBlank_of_isAssigned h]
  rw [← offsets_flatMap, Token.flatMap_chars_readAll, offsets, offsets, hfilter]

/-! ### The codes of the tokens in those of the text -/

theorem filter_dropWhile {α : Type} (test : α → Bool) (xs : List α) :
    (xs.dropWhile test).filter (fun x => !test x) = xs.filter fun x => !test x := by
  induction xs with
  | nil => rfl
  | cons x xs ih =>
    cases h : test x with
    | true => simp [h, ih]
    | false => simp [h]

theorem filter_trimBy {α : Type} (test : α → Bool) (xs : List α) :
    (Text.trimBy test xs).filter (fun x => !test x) = xs.filter fun x => !test x := by
  rw [Text.trimBy, List.filter_reverse, filter_dropWhile, List.filter_reverse, filter_dropWhile,
    List.reverse_reverse]

theorem flatten_trimBy {α : Type} (words : List (List α)) :
    (Text.trimBy List.isEmpty words).flatten = words.flatten := by
  rw [← List.flatten_filter_not_isEmpty, filter_trimBy, List.flatten_filter_not_isEmpty]

theorem sublist_intersperse {α : Type} (separator : α) : ∀ xs : List α,
    xs.Sublist (xs.intersperse separator)
  | [] => List.Sublist.refl _
  | [x] => List.Sublist.refl _
  | x :: y :: xs => by
    rw [List.intersperse_cons_cons]
    exact ((sublist_intersperse separator (y :: xs)).cons separator).cons_cons x

namespace Encoder

/-- The codes of the tokens stand in those of the text; between them are breaks. -/
theorem flatMap_sublist_codes (encoder : Encoder) (names : Naming) (text : String) :
    ((Token.readAll text.toList).flatMap (encoder.tokenCodes names)).Sublist
      (encoder.codes names text) := by
  rw [codes, List.flatMap_def, ← flatten_trimBy]
  exact (sublist_intersperse [wordBreak] _).flatten

theorem tokenCodes_of_native (encoder : Encoder) (names : Naming) {token : Token}
    (h : isNative token = true) : encoder.tokenCodes names token = token.chars.map codeOf := by
  unfold tokenCodes
  rw [if_pos (show token.chars.all isSyllable = true from h)]

theorem offsets_sublist_tokenCodes (encoder : Encoder) (names : Naming) {token : Token}
    (h : token.chars.any isAssigned = true → isNative token = true) :
    (offsets token.chars).Sublist (encoder.tokenCodes names token) := by
  by_cases hnative : isNative token = true
  · rw [tokenCodes_of_native encoder names hnative]
    exact offsets_sublist_map_codeOf token.chars
  · have hnone : token.chars.any isAssigned = false := by simpa using mt h hnative
    rw [offsets_eq_nil hnone]
    exact List.nil_sublist _

/-- In a word that is not in syllables alone, the syllables are gaps in what is composed. -/
theorem tokenCodes_word (encoder : Encoder) (names : Naming) {word : List Char}
    (h : isNative (.word word) = false) :
    encoder.tokenCodes names (.word word) =
      ((Text.splitOn isSyllable (romanize names word)).flatMap (compose encoder.spelling)).map
        Syllable.code := by
  have hchars : ¬(Token.word word).chars.all isSyllable = true := by simpa [isNative] using h
  rw [← compose_eq_flatMap fun c hc => foreign_of_isSyllable encoder hc]
  unfold tokenCodes
  rw [if_neg hchars]
  rfl

/--
**Syllables stand in the codes of a text at their places in the block, in their order**, where they
share no token with other characters.  A word that mixes them with others is composed as if it ended
at each of them, so that none of them has a code.
-/
theorem offsets_sublist_codes (encoder : Encoder) (names : Naming) (text : String) :
    (offsets (nativeText text.toList)).Sublist (encoder.codes names text) ∧
      ((∀ token ∈ Token.readAll text.toList, token.chars.any isAssigned = true →
          isNative token = true) →
        (offsets text.toList).Sublist (encoder.codes names text)) ∧
      ∀ word : List Char, isNative (.word word) = false →
        encoder.tokenCodes names (.word word) =
          ((Text.splitOn isSyllable (romanize names word)).flatMap (compose encoder.spelling)).map
            Syllable.code := by
  refine ⟨?_, fun hpure => ?_, fun word hword => tokenCodes_word encoder names hword⟩
  · -- The native tokens are some of the tokens, and each of them keeps its syllables.
    rw [nativeText, offsets_flatMap]
    have hnative : ((Token.readAll text.toList).filter isNative).Sublist
        (Token.readAll text.toList) := List.filter_sublist
    refine List.Sublist.trans ?_
      ((hnative.flatMap _).trans (flatMap_sublist_codes encoder names text))
    exact List.Sublist.flatMap_right _ fun token htoken =>
      offsets_sublist_tokenCodes encoder names fun _ => (List.mem_filter.1 htoken).2
  · rw [offsets_eq_flatMap]
    refine List.Sublist.trans ?_ (flatMap_sublist_codes encoder names text)
    exact List.Sublist.flatMap_right _ fun token htoken =>
      offsets_sublist_tokenCodes encoder names (hpure token htoken)

/-- Syllables, letters and digits in words of their own, and a word that mixes a syllable with a
mark. -/
theorem offsets_sublist_codes_words :
    (∀ token ∈ Token.readAll "가나 han 12".toList, token.chars.any isAssigned = true →
        isNative token = true) ∧
      (offsets "가나 han 12".toList).Sublist
        (codes { dimension := 256, dimension_pos := by decide } .sample "가나 han 12") ∧
      isNative (.word ['나', '!']) = false ∧
      tokenCodes { dimension := 256, dimension_pos := by decide } .sample (.word ['나', '!']) =
        ((Text.splitOn isSyllable (romanize .sample ['나', '!'])).flatMap
          (compose (spelling { dimension := 256, dimension_pos := by decide }))).map
            Syllable.code := by
  have hpure : ∀ token ∈ Token.readAll "가나 han 12".toList,
      token.chars.any isAssigned = true → isNative token = true := by decide +kernel
  exact ⟨hpure, (offsets_sublist_codes _ _ "가나 han 12").2.1 hpure, by decide,
    (offsets_sublist_codes _ _ "가나 han 12").2.2 ['나', '!'] (by decide)⟩

/-- A mark behind a syllable loses it: only the name of the mark has a code. -/
theorem not_sublist_codes_mixed :
    ¬(offsets "나!".toList).Sublist
      (codes { dimension := 256, dimension_pos := by decide } .sample "나!") := by
  have hoffsets : offsets "나!".toList = [1176] := by decide +kernel
  have hcodes : codes { dimension := 256, dimension_pos := by decide } .sample "나!" = [4137] := by
    decide +kernel
  rw [hoffsets, hcodes]
  decide

end Encoder

end RecordQuery.Similarity

import Mathlib.Logic.Relation
import RecordQuery.Proofs.Similarity.Naming
import RecordQuery.Proofs.Text.Case

/-!
# White space and case in the encoding of texts

The tokens of a text end at white space wherever it stands, and neither their division nor their
codes depend on the case of the letters of ASCII.

* `Restyled`: one change of the white space or of the letters of a text.
* `Token.readAll_append_blank`: white space divides the tokens into those before it and those behind
  it.
* `Token.readAll_map_toLower`: the tokens of a text in small letters.
* `Encoder.tokenCodes_toLower`, `Token.length_toLower`: what the tokens give does not depend on
  case.
* `Encoder.encode_eq_of_restyled`: texts that changes lead to have one embedding and one length.
-/

namespace RecordQuery.Similarity

/-- One change of a text: white space at one of its ends, other white space in the place of some, or
another case of ASCII letters, which `Char.toLower` maps to one letter. -/
inductive Restyled : List Char → List Char → Prop
  | leading {blanks : List Char} (cs : List Char) (h : ∀ c ∈ blanks, Text.isBlank c = true) :
      Restyled cs (blanks ++ cs)
  | trailing {blanks : List Char} (cs : List Char) (h : ∀ c ∈ blanks, Text.isBlank c = true) :
      Restyled cs (cs ++ blanks)
  | between {first second : List Char} (front back : List Char)
      (hfirst : first ≠ [] ∧ ∀ c ∈ first, Text.isBlank c = true)
      (hsecond : second ≠ [] ∧ ∀ c ∈ second, Text.isBlank c = true) :
      Restyled (front ++ first ++ back) (front ++ second ++ back)
  | letters {cs ds : List Char} (h : cs.map Char.toLower = ds.map Char.toLower) : Restyled cs ds

namespace Token

/-! ### White space -/

theorem takeWhile_append_of_head {p : Char → Bool} {b : Char} (h : p b = false)
    (cs back : List Char) : (cs ++ b :: back).takeWhile p = cs.takeWhile p := by
  induction cs with
  | nil => simp [h]
  | cons c cs ih => rw [List.cons_append, List.takeWhile_cons, List.takeWhile_cons, ih]

theorem dropWhile_append_of_head {p : Char → Bool} {b : Char} (h : p b = false)
    (cs back : List Char) : (cs ++ b :: back).dropWhile p = cs.dropWhile p ++ b :: back := by
  induction cs with
  | nil => simp [h]
  | cons c cs ih =>
    rw [List.cons_append, List.dropWhile_cons, List.dropWhile_cons, ih]
    split <;> rfl

theorem isDigit_eq_false_of_isBlank {b : Char} (h : Text.isBlank b = true) : b.isDigit = false := by
  cases hd : b.isDigit with
  | false => rfl
  | true => rw [not_isBlank_of_isDigit hd] at h; cases h

theorem fractionDigits_of_ne {c : Char} (h : c ≠ '.') (cs : List Char) :
    fractionDigits (c :: cs) = [] := by
  unfold fractionDigits
  split
  · next heq => exact absurd (List.cons.inj heq).1 h
  · rfl

theorem fractionDigits_append_blank {b : Char} (h : Text.isBlank b = true) (cs back : List Char) :
    fractionDigits (cs ++ b :: back) = fractionDigits cs := by
  cases cs with
  | nil => exact fractionDigits_of_ne (by rintro rfl; revert h; decide) back
  | cons c cs =>
    by_cases hc : c = '.'
    · subst hc
      exact takeWhile_append_of_head (isDigit_eq_false_of_isBlank h) cs back
    · rw [List.cons_append, fractionDigits_of_ne hc, fractionDigits_of_ne hc]

theorem next_append_blank {b : Char} (h : Text.isBlank b = true) (cs back : List Char) :
    next (cs ++ b :: back) = ((next cs).1, (next cs).2 ++ b :: back) := by
  have hdigit := isDigit_eq_false_of_isBlank h
  have hword : (!Text.isBlank b) = false := congrArg not h
  have htake := takeWhile_append_of_head (p := fun c => !Text.isBlank c) hword cs back
  have hdrop := dropWhile_append_of_head (p := fun c => !Text.isBlank c) hword cs back
  simp only [next, takeWhile_append_of_head hdigit, dropWhile_append_of_head hdigit,
    fractionDigits_append_blank h, htake, hdrop]
  split
  · next hfraction =>
    have hlength : (fractionDigits (cs.dropWhile Char.isDigit)).length + 1 ≤
        (cs.dropWhile Char.isDigit).length := by
      have happend := congrArg List.length (fractionDigits_append_drop hfraction)
      simp only [List.length_append, List.length_cons] at happend
      omega
    rw [List.drop_append_of_le_length hlength]
  · split <;> rfl

theorem readAll_nil : readAll [] = [] := by rw [readAll]

theorem readAll_of_isBlank {c : Char} (h : Text.isBlank c = true) (cs : List Char) :
    readAll (c :: cs) = readAll cs := by rw [readAll, dif_pos h]

theorem readAll_of_not_isBlank {c : Char} (h : ¬Text.isBlank c = true) (cs : List Char) :
    readAll (c :: cs) = (next (c :: cs)).1 :: readAll (next (c :: cs)).2 := by
  rw [readAll, dif_neg h]

/-- **White space divides the tokens of a text.** -/
theorem readAll_append_blank {b : Char} (h : Text.isBlank b = true) (front back : List Char) :
    readAll (front ++ b :: back) = readAll front ++ readAll back := by
  induction front using readAll.induct with
  | case1 => rw [List.nil_append, readAll_of_isBlank h, readAll_nil, List.nil_append]
  | case2 c rest hblank ih =>
    rw [List.cons_append, readAll_of_isBlank hblank, ih, readAll_of_isBlank hblank]
  | case3 c rest hblank ih =>
    rw [List.cons_append, readAll_of_not_isBlank hblank, ← List.cons_append,
      next_append_blank h, ih, readAll_of_not_isBlank hblank, List.cons_append]

theorem readAll_blanks_append {blanks : List Char} (h : ∀ c ∈ blanks, Text.isBlank c = true)
    (cs : List Char) : readAll (blanks ++ cs) = readAll cs := by
  induction blanks with
  | nil => rfl
  | cons b blanks ih =>
    rw [List.forall_mem_cons] at h
    rw [List.cons_append, readAll_of_isBlank h.1, ih h.2]

theorem readAll_append_blanks {blanks : List Char} (hne : blanks ≠ [])
    (h : ∀ c ∈ blanks, Text.isBlank c = true) (front back : List Char) :
    readAll (front ++ blanks ++ back) = readAll front ++ readAll back := by
  cases blanks with
  | nil => exact absurd rfl hne
  | cons b blanks =>
    rw [List.forall_mem_cons] at h
    rw [List.append_assoc, List.cons_append, readAll_append_blank h.1, readAll_blanks_append h.2]

/-! ### Case -/

/-- The token with its ASCII letters small. -/
def toLower : Token → Token
  | .numeral whole fraction => .numeral whole fraction
  | .word cs => .word (cs.map Char.toLower)

theorem isDigit_toLower (c : Char) : c.toLower.isDigit = c.isDigit :=
  Text.forall_toLower (by decide) c

theorem isBlank_toLower (c : Char) : Text.isBlank c.toLower = Text.isBlank c :=
  Text.forall_toLower (by decide) c

theorem toLower_eq_point_iff (c : Char) : c.toLower = '.' ↔ c = '.' :=
  iff_of_eq (Text.forall_toLower (f := (· = '.')) (by decide) c)

theorem toLower_eq_self_of_isDigit {c : Char} (h : c.isDigit = true) : c.toLower = c := by
  refine Text.toLower_of_not_isUpper fun hupper => ?_
  simp only [Char.isDigit, Bool.and_eq_true, decide_eq_true_eq] at h
  have hdigit : c.toNat ≤ 57 := h.2
  have hletter := (Text.isUpper_iff.mp hupper).1
  omega

theorem map_toLower_takeWhile_isDigit (cs : List Char) :
    (cs.map Char.toLower).takeWhile Char.isDigit = cs.takeWhile Char.isDigit := by
  rw [List.takeWhile_map,
    show Char.isDigit ∘ Char.toLower = Char.isDigit from funext isDigit_toLower]
  have hdigits : ∀ c ∈ cs.takeWhile Char.isDigit, c.toLower = id c := fun c hc =>
    toLower_eq_self_of_isDigit (List.mem_takeWhile_imp hc)
  rw [List.map_congr_left hdigits, List.map_id]

theorem map_toLower_dropWhile_isDigit (cs : List Char) :
    (cs.map Char.toLower).dropWhile Char.isDigit =
      (cs.dropWhile Char.isDigit).map Char.toLower := by
  rw [List.dropWhile_map,
    show Char.isDigit ∘ Char.toLower = Char.isDigit from funext isDigit_toLower]

theorem fractionDigits_map_toLower (cs : List Char) :
    fractionDigits (cs.map Char.toLower) = fractionDigits cs := by
  cases cs with
  | nil => rfl
  | cons c cs =>
    by_cases hc : c = '.'
    · subst hc
      exact map_toLower_takeWhile_isDigit cs
    · rw [List.map_cons, fractionDigits_of_ne hc,
        fractionDigits_of_ne (mt (toLower_eq_point_iff c).mp hc)]

theorem next_map_toLower (cs : List Char) :
    next (cs.map Char.toLower) = ((next cs).1.toLower, (next cs).2.map Char.toLower) := by
  have hblank : (fun c => !Text.isBlank c) ∘ Char.toLower = fun c => !Text.isBlank c :=
    funext fun c => congrArg not (isBlank_toLower c)
  simp only [next, map_toLower_takeWhile_isDigit, map_toLower_dropWhile_isDigit,
    fractionDigits_map_toLower]
  split
  · rw [List.map_drop]
    rfl
  · split
    · rfl
    · rw [List.takeWhile_map, List.dropWhile_map, hblank]
      rfl

/-- **The tokens of a text with small letters are its tokens with small letters.** -/
theorem readAll_map_toLower (cs : List Char) :
    readAll (cs.map Char.toLower) = (readAll cs).map toLower := by
  induction cs using readAll.induct with
  | case1 => rw [List.map_nil, readAll_nil, List.map_nil]
  | case2 c rest hblank ih =>
    have hlower : Text.isBlank c.toLower = true := (isBlank_toLower c).trans hblank
    rw [List.map_cons, readAll_of_isBlank hlower, ih, readAll_of_isBlank hblank]
  | case3 c rest hblank ih =>
    have hlower : ¬Text.isBlank c.toLower = true := by rwa [isBlank_toLower]
    rw [List.map_cons, readAll_of_not_isBlank hlower, ← List.map_cons, next_map_toLower, ih,
      readAll_of_not_isBlank hblank, List.map_cons]

/-! ### Codes and lengths -/

theorem length_toLower (token : Token) : token.toLower.length = token.length := by
  cases token with
  | numeral whole fraction => rfl
  | word cs => exact List.length_map Char.toLower

/-- The tokens of a text with their letters small. -/
def lowered (cs : List Char) : List Token := (readAll cs).map toLower

theorem lowered_eq_of_restyled {cs ds : List Char} (h : Restyled cs ds) :
    lowered cs = lowered ds := by
  unfold lowered
  cases h with
  | leading cs hblank => rw [readAll_blanks_append hblank]
  | @trailing blanks cs hblank =>
    by_cases hne : blanks = []
    · rw [hne, List.append_nil]
    · have happend := readAll_append_blanks hne hblank cs []
      rw [List.append_nil, readAll_nil, List.append_nil] at happend
      rw [happend]
  | between front back hfirst hsecond =>
    rw [readAll_append_blanks hfirst.1 hfirst.2, readAll_append_blanks hsecond.1 hsecond.2]
  | letters hletters => rw [← readAll_map_toLower, ← readAll_map_toLower, hletters]

theorem lowered_eq_of_eqvGen {cs ds : List Char} (h : Relation.EqvGen Restyled cs ds) :
    lowered cs = lowered ds := by
  induction h with
  | rel _ _ h => exact lowered_eq_of_restyled h
  | refl _ => rfl
  | symm _ _ _ ih => exact ih.symm
  | trans _ _ _ _ _ ih₁ ih₂ => exact ih₁.trans ih₂

end Token

theorem isSyllable_toLower (c : Char) : isSyllable c.toLower = isSyllable c :=
  Text.forall_toLower (by decide) c

theorem codeOf_toLower (c : Char) : codeOf c.toLower = codeOf c :=
  Text.forall_toLower (by decide) c

/-- A letter is spelt as itself, and everything else has no case in ASCII. -/
theorem map_toLower_spell (names : Naming) (c : Char) :
    (spell names c.toLower).map Char.toLower = (spell names c).map Char.toLower := by
  by_cases hupper : c.isUpper = true
  · obtain ⟨i, rfl⟩ := Text.exists_eq_ofNat_of_isUpper hupper
    have hletters : ∀ i : Fin 26, (Char.ofNat (65 + i)).isAlphanum = true ∧
        (Char.ofNat (65 + i)).toLower.isAlphanum = true ∧
        (Char.ofNat (65 + i)).toLower.toLower = (Char.ofNat (65 + i)).toLower := by decide
    obtain ⟨hcapital, hsmall, htwice⟩ := hletters i
    rw [spell_of_isAlphanum names hcapital, spell_of_isAlphanum names hsmall, List.map_singleton,
      List.map_singleton, htwice]
  · rw [Text.toLower_of_not_isUpper hupper]

theorem romanize_map_toLower (names : Naming) (cs : List Char) :
    romanize names (cs.map Char.toLower) = romanize names cs := by
  have hspelt : ((cs.map Char.toLower).flatMap (spell names)).map Char.toLower =
      (cs.flatMap (spell names)).map Char.toLower := by
    rw [List.flatMap_map, List.map_flatMap, List.map_flatMap]
    exact congrArg (List.flatMap · cs) (funext (map_toLower_spell names))
  rw [romanize, romanize, ← Text.toLower_map_toLower, hspelt, Text.toLower_map_toLower]

theorem effectiveLength_eq (text : String) :
    effectiveLength text =
      (Token.lowered text.toList).foldr (fun token n => token.length + n) 0 := by
  rw [Token.lowered, List.foldr_map]
  simp only [Token.length_toLower]
  rfl

namespace Encoder

theorem tokenCodes_of_word (encoder : Encoder) (names : Naming) (cs : List Char) :
    encoder.tokenCodes names (.word cs) =
      if cs.all isSyllable then cs.map codeOf
      else (compose encoder.spelling (romanize names cs)).map Syllable.code := rfl

theorem tokenCodes_toLower (encoder : Encoder) (names : Naming) (token : Token) :
    encoder.tokenCodes names token.toLower = encoder.tokenCodes names token := by
  cases token with
  | numeral whole fraction => rfl
  | word cs =>
    have hall : (cs.map Char.toLower).all isSyllable = cs.all isSyllable := by
      rw [List.all_map, show isSyllable ∘ Char.toLower = isSyllable from funext isSyllable_toLower]
    have hcodes : (cs.map Char.toLower).map codeOf = cs.map codeOf := by
      rw [List.map_map, show codeOf ∘ Char.toLower = codeOf from funext codeOf_toLower]
    rw [Token.toLower, tokenCodes_of_word, tokenCodes_of_word, hall, hcodes, romanize_map_toLower]

theorem codes_eq (encoder : Encoder) (names : Naming) (text : String) :
    encoder.codes names text =
      List.intercalate [wordBreak]
        (Text.trimBy List.isEmpty
          ((Token.lowered text.toList).map (encoder.tokenCodes names))) := by
  have htokens : encoder.tokenCodes names ∘ Token.toLower = encoder.tokenCodes names :=
    funext (encoder.tokenCodes_toLower names)
  rw [Token.lowered, List.map_map, htokens]
  rfl

/--
**White space and the case of ASCII letters do not matter.**  Texts that any number of changes lead
from one to the other have the same codes and the same embedding, and the same length counts for
them.
-/
theorem encode_eq_of_restyled (encoder : Encoder) (names : Naming) {s t : String}
    (h : Relation.EqvGen Restyled s.toList t.toList) :
    encoder.codes names s = encoder.codes names t ∧
      encoder.encode names s = encoder.encode names t ∧
      effectiveLength s = effectiveLength t := by
  have htokens := Token.lowered_eq_of_eqvGen h
  have hcodes : encoder.codes names s = encoder.codes names t := by
    rw [codes_eq, codes_eq, htokens]
  refine ⟨hcodes, ?_, ?_⟩
  · rw [encode, encode, hcodes]
  · rw [effectiveLength_eq, effectiveLength_eq, htokens]

/-- A blank less in front, another case, an ideographic space for a tab, and a line break behind;
the letter with an accent is spelt by its name. -/
theorem encode_eq_of_restyled_words :
    let encoder : Encoder := { dimension := 512, dimension_pos := by decide }
    let s := " Hané\t3.5"
    let t := "hANé\u3000 3.5\n"
    Relation.EqvGen Restyled s.toList t.toList ∧
      encoder.codes .sample s = encoder.codes .sample t ∧
      encoder.encode .sample s = encoder.encode .sample t ∧
      effectiveLength s = effectiveLength t := by
  intro encoder s t
  have hs : s.toList = [' '] ++ ['H', 'a', 'n', 'é', '\t', '3', '.', '5'] := String.toList_ofList
  have ht : t.toList = ['h', 'A', 'N', 'é', '\u3000', ' ', '3', '.', '5'] ++ ['\n'] :=
    String.toList_ofList
  have hchain : Relation.EqvGen Restyled s.toList t.toList := by
    rw [hs, ht]
    refine .trans _ _ _ (.symm _ _ (.rel _ _ (.leading _ (List.all_eq_true.mp (by decide))))) ?_
    refine .trans _ _ _ ?_ (.rel _ _ (.trailing _ (List.all_eq_true.mp (by decide))))
    have hletters : Restyled ['H', 'a', 'n', 'é', '\t', '3', '.', '5']
        ['h', 'A', 'N', 'é', '\t', '3', '.', '5'] :=
      .letters (by decide)
    have hspaces : Restyled (['h', 'A', 'N', 'é'] ++ ['\t'] ++ ['3', '.', '5'])
        (['h', 'A', 'N', 'é'] ++ ['\u3000', ' '] ++ ['3', '.', '5']) :=
      .between _ _ ⟨List.cons_ne_nil _ _, List.all_eq_true.mp (by decide)⟩
        ⟨List.cons_ne_nil _ _, List.all_eq_true.mp (by decide)⟩
    exact .trans _ _ _ (.rel _ _ hletters) (.rel _ _ hspaces)
  exact ⟨hchain, encode_eq_of_restyled encoder .sample hchain⟩

end Encoder

end RecordQuery.Similarity

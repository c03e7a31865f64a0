import RecordQuery.Pattern.Expansion
import RecordQuery.Proofs.Assoc
import RecordQuery.Proofs.Text.Case
import RecordQuery.Similarity.Encoder

/-!
# Composition across foreign characters

A spelling is looked up in the tables as a whole, so none can reach over a character that no
spelling has. Composition passes over such a character, and starts anew behind it.

* `Unspelt`, `Foreign`: a character that a table, and the tables of an encoder, do not have.
* `longest?_append`, `takeSpelling_append`: a spelling is found in front of a foreign character, if
  at all.
* `compose_append`: the syllables before a foreign character and those behind it.
* `compose_eq_flatMap`: the syllables of a text are those of its parts between foreign characters.
* `foreign_of_isLower_eq_false`, `foreign_of_isSyllable`: all but small letters are foreign to the
  tables of every encoder, syllables among them.
-/

namespace RecordQuery.Similarity

/-- Whether a character is in no spelling of a table. -/
def Unspelt (table : List (String × Nat)) (c : Char) : Prop := ∀ entry ∈ table, c ∉ entry.1.toList

/-- Whether a character is in none of the tables. -/
structure Foreign (spelling : Spelling) (c : Char) : Prop where
  initials : Unspelt spelling.initials c
  vowels : Unspelt spelling.vowels c
  finals : Unspelt spelling.finals c

/-! ### Spellings in front of a foreign character -/

theorem get?_eq_none_of_mem {table : List (String × Nat)} {mark : Char} (h : Unspelt table mark)
    {cs : List Char} (hmark : mark ∈ cs) : Assoc.get? (String.ofList cs) table = none := by
  refine Assoc.get?_eq_none_iff.2 fun hkey => ?_
  obtain ⟨entry, hentry, hcs⟩ := List.mem_map.1 hkey
  have := h entry hentry
  rw [hcs, String.toList_ofList] at this
  exact this hmark

/-- A spelling at the front does not reach a foreign character. -/
theorem longest?_append {table : List (String × Nat)} {mark : Char} (h : Unspelt table mark)
    (length : Nat) (before rest : List Char) :
    longest? table length (before ++ mark :: rest) =
      (longest? table length before).map fun found => (found.1, found.2 ++ mark :: rest) := by
  induction length with
  | zero => rfl
  | succ length ih =>
    rw [longest?, longest?, ih]
    by_cases hlength : length + 1 ≤ before.length
    · rw [List.take_append_of_le_length hlength, List.drop_append_of_le_length hlength]
      split <;> rfl
    · -- A front of this length holds the mark, and what is before the mark is too short for it.
      have hmark : mark ∈ (before ++ mark :: rest).take (length + 1) := by
        rw [List.take_append, List.take_cons (by omega)]
        simp
      have hshort : ¬(before.take (length + 1)).length = length + 1 := by
        rw [List.length_take]
        omega
      rw [get?_eq_none_of_mem h hmark, ite_self, if_neg hshort]

theorem takeSpelling_append {table : List (String × Nat)} {mark : Char} (h : Unspelt table mark)
    (length default : Nat) (before rest : List Char) :
    takeSpelling table length default (before ++ mark :: rest) =
      ((takeSpelling table length default before).1,
        (takeSpelling table length default before).2 ++ mark :: rest) := by
  rw [takeSpelling, takeSpelling, longest?_append h]
  cases longest? table length before <;> rfl

theorem longest?_nil (table : List (String × Nat)) (length : Nat) :
    longest? table length [] = none := by
  induction length with
  | zero => rfl
  | succ length ih => rw [longest?, ih]; simp

theorem takeSpelling_nil (table : List (String × Nat)) (length default : Nat) :
    takeSpelling table length default [] = (default, []) := by
  rw [takeSpelling, longest?_nil, Option.getD_none]

/-! ### The steps of composition -/

theorem compose_nil (spelling : Spelling) : compose spelling [] = [] := by rw [compose]

variable {spelling : Spelling} {cs : List Char}

theorem compose_of_vowel {vowel : Nat} {rest : List Char} (hne : cs ≠ [])
    (h : longest? spelling.vowels spelling.vowelLength
      (takeSpelling spelling.initials spelling.consonantLength silentInitial cs).2 =
        some (vowel, rest)) :
    compose spelling cs =
      { initial := (takeSpelling spelling.initials spelling.consonantLength silentInitial cs).1
        vowel
        final := (takeSpelling spelling.finals spelling.consonantLength 0 rest).1 } ::
        compose spelling (takeSpelling spelling.finals spelling.consonantLength 0 rest).2 := by
  obtain ⟨c, more, rfl⟩ := List.exists_cons_of_ne_nil hne
  rw [compose]
  split
  · next found =>
    rw [h, Option.some.injEq, Prod.mk.injEq] at found
    obtain ⟨rfl, rfl⟩ := found
    rfl
  · next found => simp [h] at found

theorem compose_of_no_vowel (hne : cs ≠ [])
    (h : longest? spelling.vowels spelling.vowelLength
      (takeSpelling spelling.initials spelling.consonantLength silentInitial cs).2 = none) :
    compose spelling cs = compose spelling
      ((takeSpelling spelling.initials spelling.consonantLength silentInitial cs).2.drop 1) := by
  obtain ⟨c, more, rfl⟩ := List.exists_cons_of_ne_nil hne
  rw [compose]
  split
  · next found => simp [h] at found
  · rfl

/-- **Composition starts anew behind a foreign character.** -/
theorem compose_append {mark : Char} (h : Foreign spelling mark) (before rest : List Char) :
    compose spelling (before ++ mark :: rest) =
      compose spelling before ++ compose spelling rest := by
  induction before using compose.induct spelling with
  | case1 =>
    have hfirst := takeSpelling_append h.initials spelling.consonantLength silentInitial [] rest
    rw [takeSpelling_nil] at hfirst
    rw [compose_of_no_vowel (by simp), hfirst, compose_nil]
    · rfl
    · rw [hfirst, longest?_append h.vowels, longest?_nil, Option.map_none]
  | case2 c more first vowel behind hvowel last ih =>
    have hfirst := takeSpelling_append h.initials spelling.consonantLength silentInitial
      (c :: more) rest
    have hfound : longest? spelling.vowels spelling.vowelLength (first.2 ++ mark :: rest) =
        some (vowel, behind ++ mark :: rest) := by rw [longest?_append h.vowels, hvowel]; rfl
    have hlast := takeSpelling_append h.finals spelling.consonantLength 0 behind rest
    rw [compose_of_vowel (by simp) (by rw [hfirst]; exact hfound), hfirst, hlast, ih,
      compose_of_vowel (by simp) hvowel, List.cons_append]
  | case3 c more first hvowel ih =>
    have hfirst := takeSpelling_append h.initials spelling.consonantLength silentInitial
      (c :: more) rest
    rw [compose_of_no_vowel (by simp) (by rw [hfirst, longest?_append h.vowels, hvowel]; rfl),
      hfirst, compose_of_no_vowel (by simp) hvowel]
    -- The character that is passed over is the mark itself if nothing is left before it.
    change compose spelling ((first.2 ++ mark :: rest).drop 1) =
      compose spelling (first.2.drop 1) ++ compose spelling rest
    cases hnil : first.2 with
    | nil => simp [compose_nil]
    | cons d ds =>
      rw [hnil] at ih
      exact ih

/-- **The syllables of a text are those of its parts between foreign characters**, so that the
foreign characters themselves give none. -/
theorem compose_eq_flatMap {isMark : Char → Bool} (h : ∀ c, isMark c = true → Foreign spelling c) :
    ∀ cs : List Char,
      compose spelling cs = (Text.splitOn isMark cs).flatMap (compose spelling) := by
  intro cs
  by_cases hmark : ∃ mark ∈ cs, isMark mark = true
  · obtain ⟨mark, hmem, hmark⟩ := hmark
    obtain ⟨before, rest, hcs⟩ := List.append_of_mem hmem
    rw [hcs, compose_append (h mark hmark), Pattern.splitOn_append hmark, List.flatMap_append,
      ← compose_eq_flatMap h before, ← compose_eq_flatMap h rest]
  · have hnone : ∀ c ∈ cs, isMark c = false := fun c hc => by
      simpa using fun hc' => hmark ⟨c, hc, hc'⟩
    rw [Pattern.splitOn_eq_singleton hnone, List.flatMap_singleton]
termination_by cs => cs.length
decreasing_by all_goals rw [hcs, List.length_append, List.length_cons]; omega

theorem compose_eq_nil {marks : List Char} (h : ∀ c ∈ marks, Foreign spelling c) :
    compose spelling marks = [] := by
  induction marks with
  | nil => exact compose_nil spelling
  | cons mark marks ih =>
    rw [List.forall_mem_cons] at h
    rw [← List.nil_append (mark :: marks), compose_append h.1, compose_nil, ih h.2, List.append_nil]

theorem compose_append_marks {marks : List Char} (h : ∀ c ∈ marks, Foreign spelling c)
    (cs : List Char) : compose spelling (cs ++ marks) = compose spelling cs := by
  cases marks with
  | nil => rw [List.append_nil]
  | cons mark marks =>
    rw [List.forall_mem_cons] at h
    rw [compose_append h.1, compose_eq_nil h.2, List.append_nil]

/-! ### Only small letters are not foreign -/

theorem all_spellings : ∀ table ∈ [initials, extendedInitials, vowels, extendedVowels, finals,
    extendedFinals], (table.all fun entry => entry.1.toList.all Char.isLower) = true := by
  decide +kernel

theorem unspelt_of_isLower_eq_false {table : List (String × Nat)}
    (htable : table ∈ [initials, extendedInitials, vowels, extendedVowels, finals, extendedFinals])
    {c : Char} (h : c.isLower = false) : Unspelt table c := by
  intro entry hentry hmem
  have hall := List.all_eq_true.1 (all_spellings table htable) entry hentry
  have hlower := List.all_eq_true.1 hall c hmem
  rw [h] at hlower
  cases hlower

theorem foreign_of_isLower_eq_false (encoder : Encoder) {c : Char} (h : c.isLower = false) :
    Foreign encoder.spelling c := by
  rw [Encoder.spelling]
  split
  · -- The extended tables stand in front of the basic ones.
    exact ⟨List.forall_mem_append.2
        ⟨unspelt_of_isLower_eq_false (by simp) h, unspelt_of_isLower_eq_false (by simp) h⟩,
      List.forall_mem_append.2
        ⟨unspelt_of_isLower_eq_false (by simp) h, unspelt_of_isLower_eq_false (by simp) h⟩,
      List.forall_mem_append.2
        ⟨unspelt_of_isLower_eq_false (by simp) h, unspelt_of_isLower_eq_false (by simp) h⟩⟩
  · exact ⟨@unspelt_of_isLower_eq_false initials (by simp) c h,
      @unspelt_of_isLower_eq_false vowels (by simp) c h,
      @unspelt_of_isLower_eq_false finals (by simp) c h⟩

theorem foreign_of_isSyllable (encoder : Encoder) {c : Char} (h : isSyllable c = true) :
    Foreign encoder.spelling c := by
  refine foreign_of_isLower_eq_false encoder (Bool.eq_false_iff.2 fun hlower => ?_)
  have hhigh := (Text.isLower_iff.1 hlower).2
  simp only [isSyllable, Bool.and_eq_true, decide_eq_true_eq] at h
  have hlow : 0xAC00 ≤ c.toNat := h.1
  omega

end RecordQuery.Similarity

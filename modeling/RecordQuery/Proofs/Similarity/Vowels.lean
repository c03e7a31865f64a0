import RecordQuery.Proofs.Similarity.Composition

/-!
# The vowels of composed syllables

The spellings of initials and finals have no vowel letter, those of vowels that are short enough to
be looked at have no other, and each vowel letter is a spelling by itself.  So composition can pass
over consonants only, although it moves on by the lengths of what it finds, and by one more where no
vowel is found.

* `turn?`, `scan?`: composition by places in the text, which fails where it looks beyond the end.
* `Spelling.Parted`: the tables of an encoder keep vowel letters and others apart.
* `exists_turnOf`: what one turn takes out of the text.
* `exists_scan?`: what all turns take out of it.
* `scan?_compose`: the vowels of the syllables are the vowel letters of the text in their order.
-/

namespace RecordQuery.Similarity

/-- Whether a letter stands for a vowel, the half-vowels included. -/
def isVowelLetter (c : Char) : Bool := ['a', 'e', 'i', 'o', 'u', 'w', 'y'].contains c

/-! ### Composition by places -/

/-- The text from a place on; from beyond its end there is none. -/
def from? (cs : List Char) (place : Nat) : Option (List Char) :=
  if place ≤ cs.length then some (cs.drop place) else none

/-- The index and the length of the longest spelling at the front of a text. -/
def match? (table : List (String × Nat)) (length : Nat) (cs : List Char) : Option (Nat × Nat) :=
  (longest? table length cs).map fun found => (found.1, cs.length - found.2.length)

/-- A vowel of a text by its letters, and the syllable that it is in. -/
abbrev Nucleus := List Char × Syllable

/-- One turn of composition at a place: the next place, and the vowel that is found. -/
def turn? (spelling : Spelling) (cs : List Char) (place : Nat) : Option (Nat × Option Nucleus) := do
  let ahead ← from? cs place
  let (initial, used) :=
    (match? spelling.initials spelling.consonantLength ahead).getD (silentInitial, 0)
  let start := place + used
  let ahead ← from? cs start
  match match? spelling.vowels spelling.vowelLength ahead with
  | none => return (start + 1, none)
  | some (vowel, used) =>
    let stop := start + used
    let behind ← from? cs stop
    let (final, last) := (match? spelling.finals spelling.consonantLength behind).getD (0, 0)
    return (stop + last, some (ahead.take used, { initial, vowel, final }))

/-- Composition from a place on in a number of turns at most. -/
def scan? (spelling : Spelling) (cs : List Char) : (turns place : Nat) → Option (List Nucleus)
  | turns, place =>
    if cs.length ≤ place then some []
    else
      match turns with
      | 0 => none
      | turns + 1 => do
        let (next, found) ← turn? spelling cs place
        return found.toList ++ (← scan? spelling cs turns next)

/-! ### Vowel letters in the tables -/

/-- Vowel letters and others do not meet in the tables, and each vowel letter is a spelling. -/
structure Spelling.Parted (spelling : Spelling) : Prop where
  initials : ∀ entry ∈ spelling.initials, ∀ c ∈ entry.1.toList, isVowelLetter c = false
  vowels : ∀ entry ∈ spelling.vowels, entry.1.toList.length ≤ spelling.vowelLength →
    ∀ c ∈ entry.1.toList, isVowelLetter c = true
  finals : ∀ entry ∈ spelling.finals, ∀ c ∈ entry.1.toList, isVowelLetter c = false
  single : ∀ c, isVowelLetter c = true → (Assoc.get? (String.ofList [c]) spelling.vowels).isSome
  vowelLength_pos : 0 < spelling.vowelLength

/-- The vowel letters in tables, as a test. -/
def Spelling.isParted (spelling : Spelling) : Bool :=
  (spelling.initials.all fun entry => entry.1.toList.all fun c => !isVowelLetter c) &&
  (spelling.vowels.all fun entry =>
    !decide (entry.1.toList.length ≤ spelling.vowelLength) || entry.1.toList.all isVowelLetter) &&
  (spelling.finals.all fun entry => entry.1.toList.all fun c => !isVowelLetter c) &&
  (['a', 'e', 'i', 'o', 'u', 'w', 'y'].all fun c =>
    (Assoc.get? (String.ofList [c]) spelling.vowels).isSome) &&
  decide (0 < spelling.vowelLength)

theorem Spelling.parted_of_isParted {spelling : Spelling} (h : spelling.isParted = true) :
    spelling.Parted := by
  simp only [isParted, Bool.and_eq_true, List.all_eq_true, Bool.or_eq_true, Bool.not_eq_true',
    decide_eq_true_eq, decide_eq_false_iff_not] at h
  obtain ⟨⟨⟨⟨hinitials, hvowels⟩, hfinals⟩, hsingle⟩, hlength⟩ := h
  refine ⟨hinitials, fun entry hentry hshort => ?_, hfinals, fun c hc => ?_, hlength⟩
  · exact (hvowels entry hentry).resolve_left (not_not_intro hshort)
  · exact hsingle c (List.contains_iff_mem.mp hc)

theorem parted_spelling (encoder : Encoder) : encoder.spelling.Parted := by
  rw [Encoder.spelling]
  split
  · exact Spelling.parted_of_isParted (by decide +kernel)
  · exact Spelling.parted_of_isParted (by decide +kernel)

/-! ### Spellings at the front of a text -/

variable {table : List (String × Nat)} {spelling : Spelling} {cs : List Char}

theorem exists_front_of_longest? {length index : Nat} {rest : List Char}
    (h : longest? table length cs = some (index, rest)) :
    ∃ front, cs = front ++ rest ∧ front ≠ [] ∧ front.length ≤ length ∧
      Assoc.get? (String.ofList front) table = some index := by
  induction length with
  | zero => cases h
  | succ length ih =>
    rw [longest?] at h
    split at h
    · next found hfound =>
      obtain ⟨rfl, rfl⟩ : found = index ∧ cs.drop (length + 1) = rest := by simpa using h
      split at hfound
      · next hfront =>
        refine ⟨cs.take (length + 1), (List.take_append_drop _ _).symm, ?_, by omega, hfound⟩
        rintro hnil
        rw [hnil] at hfront
        cases hfront
      · cases hfound
    · obtain ⟨front, hcs, hne, hlength, hget⟩ := ih h
      exact ⟨front, hcs, hne, by omega, hget⟩

/-- A character that is a spelling by itself does not go unnoticed. -/
theorem longest?_ne_none {c : Char} (h : (Assoc.get? (String.ofList [c]) table).isSome)
    (length : Nat) (rest : List Char) : longest? table (length + 1) (c :: rest) ≠ none := by
  induction length with
  | zero =>
    obtain ⟨index, hindex⟩ := Option.isSome_iff_exists.mp h
    rw [longest?, List.take_succ_cons, List.take_zero, if_pos (show [c].length = 0 + 1 from rfl),
      hindex]
    exact Option.some_ne_none _
  | succ length ih =>
    rw [longest?]
    split
    · exact Option.some_ne_none _
    · exact ih

theorem Spelling.Parted.isVowelLetter_of_none (h : spelling.Parted) {c : Char} {rest : List Char}
    (hnone : longest? spelling.vowels spelling.vowelLength (c :: rest) = none) :
    isVowelLetter c = false := by
  refine Bool.eq_false_iff.mpr fun hc => ?_
  obtain ⟨length, hlength⟩ := Nat.exists_eq_add_one.mpr h.vowelLength_pos
  rw [hlength] at hnone
  exact longest?_ne_none (h.single c hc) length rest hnone

/-! ### Places -/

theorem drop_of_front {place : Nat} {front rest : List Char} (hplace : place ≤ cs.length)
    (h : cs.drop place = front ++ rest) :
    place + front.length ≤ cs.length ∧ rest = cs.drop (place + front.length) := by
  have hlength := congrArg List.length h
  rw [List.length_drop, List.length_append] at hlength
  refine ⟨by omega, ?_⟩
  rw [← List.drop_drop, h, List.drop_left]

theorem from?_of_le {place : Nat} (h : place ≤ cs.length) : from? cs place = some (cs.drop place) :=
  if_pos h

theorem match?_append {length index : Nat} {front rest : List Char}
    (h : longest? table length (front ++ rest) = some (index, rest)) :
    match? table length (front ++ rest) = some (index, front.length) := by
  simp [match?, h]

/-- What is taken from a table without vowel letters at a place: the text up to another place, with
none of them. -/
theorem exists_match?_getD
    (htable : ∀ entry ∈ table, ∀ c ∈ entry.1.toList, isVowelLetter c = false)
    (length default : Nat) {place : Nat} (h : place ≤ cs.length) :
    ∃ used, (match? table length (cs.drop place)).getD (default, 0) =
        ((takeSpelling table length default (cs.drop place)).1, used) ∧
      (takeSpelling table length default (cs.drop place)).2 = cs.drop (place + used) ∧
      place + used ≤ cs.length ∧
      (cs.drop place).filter isVowelLetter = (cs.drop (place + used)).filter isVowelLetter := by
  rw [takeSpelling]
  cases hfound : longest? table length (cs.drop place) with
  | none =>
    rw [match?, hfound]
    exact ⟨0, rfl, rfl, h, rfl⟩
  | some found =>
    obtain ⟨index, rest⟩ := found
    obtain ⟨front, hfront, -, -, hget⟩ := exists_front_of_longest? hfound
    obtain ⟨hle, hrest⟩ := drop_of_front h hfront
    have hnone : front.filter isVowelLetter = [] := List.filter_eq_nil_iff.mpr fun c hc => by
      have hc := htable _ (Assoc.mem_of_get? hget) c (by rwa [String.toList_ofList])
      simp [hc]
    refine ⟨front.length, ?_, hrest, hle, ?_⟩
    · rw [hfront] at hfound ⊢
      rw [match?_append hfound]
      rfl
    · rw [← hrest, hfront, List.filter_append, hnone, List.nil_append]

theorem exists_match?_vowel (h : spelling.Parted) {place vowel : Nat} {rest : List Char}
    (hplace : place ≤ cs.length)
    (hfound : longest? spelling.vowels spelling.vowelLength (cs.drop place) = some (vowel, rest)) :
    ∃ front, front ≠ [] ∧ Assoc.get? (String.ofList front) spelling.vowels = some vowel ∧
      match? spelling.vowels spelling.vowelLength (cs.drop place) = some (vowel, front.length) ∧
      (cs.drop place).take front.length = front ∧ rest = cs.drop (place + front.length) ∧
      place + front.length ≤ cs.length ∧
      (cs.drop place).filter isVowelLetter =
        front ++ (cs.drop (place + front.length)).filter isVowelLetter := by
  obtain ⟨front, hfront, hne, hshort, hget⟩ := exists_front_of_longest? hfound
  obtain ⟨hle, hrest⟩ := drop_of_front hplace hfront
  have hvowels : front.filter isVowelLetter = front := List.filter_eq_self.mpr fun c hc => by
    refine h.vowels _ (Assoc.mem_of_get? hget) ?_ c ?_
    · rwa [String.toList_ofList]
    · rwa [String.toList_ofList]
  refine ⟨front, hne, hget, ?_, ?_, hrest, hle, ?_⟩
  · rw [hfront] at hfound ⊢
    exact match?_append hfound
  · rw [hfront, List.take_left]
  · rw [hfront, List.filter_append, hvowels, hrest]

theorem filter_drop_succ (h : spelling.Parted) {place : Nat} (hplace : place ≤ cs.length)
    (hnone : longest? spelling.vowels spelling.vowelLength (cs.drop place) = none) :
    (cs.drop place).filter isVowelLetter = (cs.drop (place + 1)).filter isVowelLetter := by
  cases hrest : cs.drop place with
  | nil =>
    rw [← List.drop_drop, hrest]
    rfl
  | cons c rest =>
    rw [hrest] at hnone
    rw [List.filter_cons_of_neg (by simp [h.isVowelLetter_of_none hnone]),
      (drop_of_front hplace (show _ = [c] ++ rest from hrest)).2]
    rfl

/-! ### Turns -/

/-- What one turn of composition takes out of a text. -/
structure TurnOf (spelling : Spelling) (cs : List Char) (place next : Nat)
    (found : List Nucleus) : Prop where
  progress : place < next
  syllables : compose spelling (cs.drop place) =
    found.map Prod.snd ++ compose spelling (cs.drop next)
  letters : (cs.drop place).filter isVowelLetter =
    found.flatMap Prod.fst ++ (cs.drop next).filter isVowelLetter
  spelt : ∀ nucleus ∈ found, nucleus.1 ≠ [] ∧
    Assoc.get? (String.ofList nucleus.1) spelling.vowels = some nucleus.2.vowel

/-- **One turn looks at places of the text only, and takes a vowel or passes over consonants.** -/
theorem exists_turnOf (h : spelling.Parted) {place : Nat} (hplace : place < cs.length) :
    ∃ next found, turn? spelling cs place = some (next, found) ∧
      TurnOf spelling cs place next found.toList := by
  have hne : cs.drop place ≠ [] := by simpa using hplace
  obtain ⟨used, honset, hstart, hle, hletters⟩ := exists_match?_getD h.initials
    spelling.consonantLength silentInitial (Nat.le_of_lt hplace)
  cases hnucleus : longest? spelling.vowels spelling.vowelLength (cs.drop (place + used)) with
  | none =>
    have hmatch : match? spelling.vowels spelling.vowelLength (cs.drop (place + used)) = none := by
      rw [match?, hnucleus, Option.map_none]
    refine ⟨place + used + 1, none, ?_, by omega, ?_, ?_, by simp⟩
    · simp only [turn?, from?_of_le (Nat.le_of_lt hplace), Option.bind_eq_bind, Option.bind_some,
        honset, from?_of_le hle, hmatch]
      rfl
    · rw [compose_of_no_vowel hne (by rw [hstart, hnucleus]), hstart, List.drop_drop]
      rfl
    · rw [hletters, filter_drop_succ h hle hnucleus]
      rfl
  | some found =>
    obtain ⟨vowel, rest⟩ := found
    obtain ⟨front, hfront, hget, hmatch, htake, hrest, hle', hvowels⟩ :=
      exists_match?_vowel h hle hnucleus
    obtain ⟨last, hcoda, hnext, -, hletters'⟩ := exists_match?_getD h.finals
      spelling.consonantLength 0 hle'
    have hpos := List.length_pos_iff.mpr hfront
    let syllable : Syllable :=
      { initial := (takeSpelling spelling.initials spelling.consonantLength silentInitial
          (cs.drop place)).1
        vowel
        final := (takeSpelling spelling.finals spelling.consonantLength 0
          (cs.drop (place + used + front.length))).1 }
    refine ⟨place + used + front.length + last, some (front, syllable), ?_, by omega, ?_, ?_, ?_⟩
    · simp only [turn?, from?_of_le (Nat.le_of_lt hplace), Option.bind_eq_bind, Option.bind_some,
        honset, from?_of_le hle, hmatch, from?_of_le hle', hcoda, htake]
      rfl
    · rw [compose_of_vowel hne (by rw [hstart, hnucleus]), hrest, hnext]
      rfl
    · rw [hletters, hvowels, hletters']
      simp
    · simpa using ⟨hfront, hget⟩

/-- **The turns from a place on take the vowel letters behind it, each once**, and there are no more
of them than characters. -/
theorem exists_scan? (h : spelling.Parted) {turns place : Nat}
    (hturns : cs.length ≤ turns + place) :
    ∃ found, scan? spelling cs turns place = some found ∧
      found.map Prod.snd = compose spelling (cs.drop place) ∧
      found.flatMap Prod.fst = (cs.drop place).filter isVowelLetter ∧
      ∀ nucleus ∈ found, nucleus.1 ≠ [] ∧
        Assoc.get? (String.ofList nucleus.1) spelling.vowels = some nucleus.2.vowel := by
  induction turns generalizing place with
  | zero =>
    have hplace : cs.length ≤ place := by omega
    rw [scan?, if_pos hplace, List.drop_eq_nil_of_le hplace, compose_nil]
    exact ⟨[], rfl, rfl, rfl, by simp⟩
  | succ turns ih =>
    by_cases hplace : cs.length ≤ place
    · rw [scan?, if_pos hplace, List.drop_eq_nil_of_le hplace, compose_nil]
      exact ⟨[], rfl, rfl, rfl, by simp⟩
    · obtain ⟨next, taken, hturn, hstep⟩ := exists_turnOf h (Nat.lt_of_not_le hplace)
      have hprogress := hstep.progress
      obtain ⟨found, hscan, hsyllables, hletters, hspelt⟩ := @ih next (by omega)
      refine ⟨taken.toList ++ found, ?_, ?_, ?_, ?_⟩
      · rw [scan?, if_neg hplace, hturn]
        simp [hscan]
      · rw [List.map_append, hsyllables, hstep.syllables]
      · rw [List.flatMap_append, hletters, hstep.letters]
      · exact List.forall_mem_append.mpr ⟨hstep.spelt, hspelt⟩

/--
**No vowel of a text is lost or used twice.**  Composition by places ends after as many turns as
there are characters at most, and never looks beyond the end; its syllables are those of the text,
each with a spelling of its vowel, and the letters of these spellings are the vowel letters of the
text in their order.  So a text has syllables exactly if it has vowel letters.
-/
theorem scan?_compose (encoder : Encoder) (cs : List Char) :
    ∃ found : List Nucleus,
      scan? encoder.spelling cs cs.length 0 = some found ∧
      found.map Prod.snd = compose encoder.spelling cs ∧
      (∀ nucleus ∈ found, nucleus.1 ≠ [] ∧
        Assoc.get? (String.ofList nucleus.1) encoder.spelling.vowels = some nucleus.2.vowel) ∧
      found.flatMap Prod.fst = cs.filter isVowelLetter ∧
      (compose encoder.spelling cs = [] ↔ ∀ c ∈ cs, isVowelLetter c = false) := by
  obtain ⟨found, hscan, hsyllables, hletters, hspelt⟩ :=
    exists_scan? (parted_spelling encoder) (show cs.length ≤ cs.length + 0 from Nat.le_refl _)
  rw [List.drop_zero] at hsyllables hletters
  refine ⟨found, hscan, hsyllables, hspelt, hletters, ?_⟩
  have hempty : found = [] ↔ cs.filter isVowelLetter = [] := by
    rw [← hletters]
    refine ⟨fun hnil => by rw [hnil]; rfl, fun hnil => ?_⟩
    rw [List.flatMap_eq_nil_iff] at hnil
    exact List.eq_nil_iff_forall_not_mem.mpr fun nucleus hmem =>
      (hspelt nucleus hmem).1 (hnil nucleus hmem)
  rw [← hsyllables, List.map_eq_nil_iff, hempty, List.filter_eq_nil_iff]
  simp

/-- A word with a spelling that is too long to be looked at, and consonants that are passed over. -/
theorem scan?_compose_word :
    let encoder : Encoder := { dimension := 512, dimension_pos := by decide }
    let cs := "araeaqhrwst!".toList
    ∃ found : List Nucleus,
      scan? encoder.spelling cs cs.length 0 = some found ∧
      found.map Prod.snd = compose encoder.spelling cs ∧
      found.flatMap Prod.fst = ['a', 'a', 'e', 'a', 'w'] ∧ compose encoder.spelling cs ≠ [] := by
  intro encoder cs
  obtain ⟨found, hscan, hsyllables, -, hletters, hempty⟩ := scan?_compose encoder cs
  refine ⟨found, hscan, hsyllables, hletters.trans (by decide), fun hnil => ?_⟩
  have ha := hempty.mp hnil 'a' (by decide)
  exact absurd ha (by decide)

end RecordQuery.Similarity

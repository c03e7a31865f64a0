import RecordQuery.Proofs.Similarity.Composition
import RecordQuery.Proofs.Similarity.Naming

/-!
# Syllables by their codes

The code of a syllable is a numeral of three places, with twenty-one vowels to an initial and
twenty-eight finals to a vowel.  A syllable can be read off its code as long as its vowel is one of
these twenty-one.  The extended tables also spell old vowels, which stand two rows of twenty-one
further on: their rows are carried to the initial, so that such a syllable has the code of another
one, or none in the block.

* `Syllable.ofCode`: the syllable of a code.
* `Syllable.SpeltBy`: the parts of a syllable are in the tables; `speltBy_of_mem_compose` says so of
  all syllables of a text.
* `Syllable.ofCode_code`: modern syllables are read off their codes.
* `Syllable.code_of_old`: the code of a syllable with an old vowel.
* `ofCode_code_iff`: of the syllables of a text, exactly the modern ones are read off their codes.
* `not_ofCode_code_old`: an old vowel that shares its code, and one that is taken for a break.
-/

namespace RecordQuery.Similarity

def Syllable.ofCode (code : Nat) : Syllable :=
  { initial := code / 588, vowel := code / 28 % 21, final := code % 28 }

/-! ### The parts of composed syllables -/

/-- The indices that a table spells. -/
def indices (table : List (String × Nat)) : List Nat := table.map Prod.snd

theorem mem_indices_of_longest? {table : List (String × Nat)} {length index : Nat}
    {cs rest : List Char} (h : longest? table length cs = some (index, rest)) :
    index ∈ indices table := by
  induction length with
  | zero => cases h
  | succ length ih =>
    rw [longest?] at h
    split at h
    · next found hfound =>
      obtain ⟨rfl, -⟩ : found = index ∧ cs.drop (length + 1) = rest := by simpa using h
      split at hfound
      · exact List.mem_map.mpr ⟨_, Assoc.mem_of_get? hfound, rfl⟩
      · cases hfound
    · exact ih h

theorem mem_indices_of_takeSpelling (table : List (String × Nat)) (length default : Nat)
    (cs : List Char) : (takeSpelling table length default cs).1 ∈ default :: indices table := by
  rw [takeSpelling]
  cases h : longest? table length cs with
  | none => exact List.mem_cons_self
  | some found => exact List.mem_cons_of_mem _ (mem_indices_of_longest? h)

/-- The parts of a syllable are in the tables, but for the silent initial and a final that is not
there. -/
structure Syllable.SpeltBy (spelling : Spelling) (s : Syllable) : Prop where
  initial : s.initial ∈ silentInitial :: indices spelling.initials
  vowel : s.vowel ∈ indices spelling.vowels
  final : s.final ∈ 0 :: indices spelling.finals

/-- Composition takes the parts of syllables from the tables. -/
theorem speltBy_of_mem_compose {spelling : Spelling} {cs : List Char} {s : Syllable}
    (h : s ∈ compose spelling cs) : s.SpeltBy spelling := by
  induction cs using compose.induct spelling with
  | case1 => rw [compose_nil] at h; cases h
  | case2 c more first vowel rest hvowel last ih =>
    rw [compose_of_vowel (by simp) hvowel, List.mem_cons] at h
    rcases h with rfl | h
    · exact ⟨mem_indices_of_takeSpelling .., mem_indices_of_longest? hvowel,
        mem_indices_of_takeSpelling ..⟩
    · exact ih h
  | case3 c more first hvowel ih =>
    rw [compose_of_no_vowel (by simp) hvowel] at h
    exact ih h

/-- The vowels that are not part of modern syllables. -/
def oldVowels : List Nat := indices extendedVowels

theorem initial_lt_of_mem : ∀ i ∈ silentInitial :: indices Spelling.extended.initials, i < 19 := by
  decide

theorem vowel_lt_of_mem : ∀ v ∈ indices vowels, v < 21 := by decide

theorem final_lt_of_mem : ∀ f ∈ 0 :: indices Spelling.extended.finals, f < 28 := by decide

/-- The old vowels stand two rows further on than the modern ones. -/
theorem row_of_mem_oldVowels : ∀ v ∈ oldVowels, 42 ≤ v ∧ v < 63 := by decide

/-- The parts that an encoder spells are within their ranges, but for old vowels from the extended
tables. -/
theorem Syllable.SpeltBy.bounds {encoder : Encoder} {s : Syllable}
    (h : s.SpeltBy encoder.spelling) :
    s.initial < 19 ∧ s.final < 28 ∧
      (s.vowel < 21 ∨ extendedDimension ≤ encoder.dimension ∧ s.vowel ∈ oldVowels) := by
  obtain ⟨hinitial, hvowel, hfinal⟩ := h
  unfold Encoder.spelling at hinitial hvowel hfinal
  split at hinitial
  · next hextended =>
    rw [if_pos hextended] at hvowel hfinal
    refine ⟨initial_lt_of_mem _ hinitial, final_lt_of_mem _ hfinal, ?_⟩
    -- the extended vowels stand in front of the basic ones
    rw [indices, Spelling.extended, List.map_append, List.mem_append] at hvowel
    exact hvowel.elim (fun hold => Or.inr ⟨hextended, hold⟩) fun hv => Or.inl (vowel_lt_of_mem _ hv)
  · next hbasic =>
    rw [if_neg hbasic] at hvowel hfinal
    have hinitials : ∀ i ∈ silentInitial :: indices Spelling.basic.initials, i < 19 := by decide
    have hfinals : ∀ f ∈ 0 :: indices Spelling.basic.finals, f < 28 := by decide
    exact ⟨hinitials _ hinitial, hfinals _ hfinal, Or.inl (vowel_lt_of_mem _ hvowel)⟩

/-! ### Codes -/

namespace Syllable

variable {s t : Syllable}

theorem code_of_modern (hi : s.initial < 19) (hv : s.vowel < 21) (hf : s.final < 28) :
    s.code = s.initial * 588 + s.vowel * 28 + s.final := by
  have hblock : s.initial * 588 + s.vowel * 28 + s.final < syllableCount := by
    unfold syllableCount
    omega
  rw [code, withinBlock, if_pos hblock]

/-- **A modern syllable is read off its code.** -/
theorem ofCode_code (hi : s.initial < 19) (hv : s.vowel < 21) (hf : s.final < 28) :
    ofCode s.code = s := by
  rw [code_of_modern hi hv hf, ofCode]
  obtain ⟨initial, vowel, final⟩ := s
  simp only [mk.injEq] at *
  omega

/-- **The row of an old vowel is carried to the initial**, and what is carried too far leaves the
block. -/
theorem code_of_old (hv : s.vowel ∈ oldVowels) (hf : s.final < 28) :
    s.code = if s.initial < 17 then code ⟨s.initial + 2, s.vowel - 42, s.final⟩ else wordBreak := by
  obtain ⟨hlow, hhigh⟩ := row_of_mem_oldVowels _ hv
  split
  · next hi =>
    have hmodern : code ⟨s.initial + 2, s.vowel - 42, s.final⟩ = _ :=
      code_of_modern (by dsimp only; omega) (by dsimp only; omega) hf
    have hblock : s.initial * 588 + s.vowel * 28 + s.final < syllableCount := by
      unfold syllableCount
      omega
    rw [hmodern, code, withinBlock, if_pos hblock]
    dsimp only
    omega
  · next hi =>
    have hbeyond : ¬s.initial * 588 + s.vowel * 28 + s.final < syllableCount := by
      unfold syllableCount
      omega
    rw [code, withinBlock, if_neg hbeyond, wordBreak]

theorem vowel_ofCode_lt (code : Nat) : (ofCode code).vowel < 21 := Nat.mod_lt _ (by decide)

end Syllable

/--
**Of the syllables of a text, exactly the modern ones are read off their codes.**  The parts of all
of them are what the tables spell.  The modern ones have codes of their own, and only the first
syllable of the block has that of a break.  A syllable with an old vowel, which an encoder finds
from the dimension of the extended tables on, has the code of the modern syllable that its row is
carried to, or that of a break if it is carried out of the block.
-/
theorem ofCode_code_iff (encoder : Encoder) :
    (∀ cs, ∀ s ∈ compose encoder.spelling cs, s.SpeltBy encoder.spelling ∧
      s.initial < 19 ∧ s.final < 28 ∧
      ((s.code / 588 = s.initial ∧ s.code / 28 % 21 = s.vowel ∧ s.code % 28 = s.final) ↔
        s.vowel < 21) ∧
      (21 ≤ s.vowel → extendedDimension ≤ encoder.dimension ∧ s.vowel ∈ oldVowels ∧
        s.code = if s.initial < 17 then Syllable.code ⟨s.initial + 2, s.vowel - 42, s.final⟩
          else wordBreak)) ∧
    ∀ cs ds, ∀ s ∈ compose encoder.spelling cs, ∀ t ∈ compose encoder.spelling ds,
      s.vowel < 21 → t.vowel < 21 →
        (s.code = t.code → s = t) ∧ (s.code = wordBreak → s = ⟨0, 0, 0⟩) := by
  refine ⟨fun cs s hs => ?_, fun cs ds s hs t ht hvs hvt => ?_⟩
  · have hspelt := speltBy_of_mem_compose hs
    obtain ⟨hinitial, hfinal, hvowel⟩ := hspelt.bounds
    refine ⟨hspelt, hinitial, hfinal, ⟨fun h => ?_, fun hmodern => ?_⟩, fun hold => ?_⟩
    · rw [← h.2.1]
      exact Syllable.vowel_ofCode_lt s.code
    · have hread := Syllable.ofCode_code hinitial hmodern hfinal
      exact ⟨congrArg Syllable.initial hread, congrArg Syllable.vowel hread,
        congrArg Syllable.final hread⟩
    · rcases hvowel with hmodern | ⟨hextended, hmem⟩
      · omega
      · exact ⟨hextended, hmem, Syllable.code_of_old hmem hfinal⟩
  · obtain ⟨his, hfs, -⟩ := (speltBy_of_mem_compose hs).bounds
    obtain ⟨hit, hft, -⟩ := (speltBy_of_mem_compose ht).bounds
    have hread := Syllable.ofCode_code his hvs hfs
    refine ⟨fun hcodes => ?_, fun hbreak => ?_⟩
    · rw [← hread, hcodes, Syllable.ofCode_code hit hvt hft]
    · rw [← hread, hbreak]
      rfl

/-- A modern syllable in two spellings, one with an old vowel, and the first syllable of the
block. -/
theorem ofCode_code_iff_words :
    let encoder : Encoder := { dimension := 512, dimension_pos := by decide }
    let ran : Syllable := ⟨5, 0, 4⟩
    let old : Syllable := ⟨11, 45, 0⟩
    let first : Syllable := ⟨0, 0, 0⟩
    (ran ∈ compose encoder.spelling (romanize .sample "Ran".toList) ∧ ran.code / 588 = 5 ∧
      ran.code / 28 % 21 = 0 ∧ ran.code % 28 = 4) ∧
    (old ∈ compose encoder.spelling (romanize .sample "yya".toList) ∧ 21 ≤ old.vowel ∧
      old.code = Syllable.code ⟨13, 3, 0⟩) ∧
    (∀ s ∈ compose encoder.spelling (romanize .sample "lan".toList), s.vowel < 21 →
      s.code = ran.code → s = ran) ∧
    first ∈ compose encoder.spelling (romanize .sample "ga".toList) ∧ first.code = wordBreak ∧
      first = ⟨0, 0, 0⟩ := by
  intro encoder ran old first
  have hran : ran ∈ compose encoder.spelling (romanize .sample "Ran".toList) := by decide +kernel
  have hold : old ∈ compose encoder.spelling (romanize .sample "yya".toList) := by decide +kernel
  have hfirst : first ∈ compose encoder.spelling (romanize .sample "ga".toList) := by decide +kernel
  have hbreak : first.code = wordBreak := by decide
  obtain ⟨hread, hown⟩ := ofCode_code_iff encoder
  obtain ⟨hi, hv, hf⟩ := (hread _ ran hran).2.2.2.1.mpr (by decide)
  have hcarried := ((hread _ old hold).2.2.2.2 (by decide)).2.2
  rw [if_pos (by decide)] at hcarried
  exact ⟨⟨hran, hi, hv, hf⟩, ⟨hold, by decide, hcarried⟩,
    fun s hs hmodern => (hown _ _ s hs ran hran hmodern (by decide)).1, hfirst, hbreak,
    (hown _ _ first hfirst first hfirst (by decide) (by decide)).2 hbreak⟩

/-- An old vowel is not read off its code, as the syllable shares it with another one; and behind
another initial its code is that of a break. -/
theorem not_ofCode_code_old :
    let encoder : Encoder := { dimension := 512, dimension_pos := by decide }
    compose encoder.spelling (romanize .sample "yya".toList) = [⟨11, 45, 0⟩] ∧
      compose encoder.spelling (romanize .sample "jjyae".toList) = [⟨13, 3, 0⟩] ∧
      Syllable.code ⟨11, 45, 0⟩ = Syllable.code ⟨13, 3, 0⟩ ∧
      Syllable.code ⟨11, 45, 0⟩ / 28 % 21 ≠ 45 ∧
      compose encoder.spelling (romanize .sample "hyya".toList) = [⟨18, 45, 0⟩] ∧
      Syllable.code ⟨18, 45, 0⟩ = wordBreak := by
  intro encoder
  exact ⟨by decide +kernel, by decide +kernel, by decide, by decide, by decide +kernel, by decide⟩

end RecordQuery.Similarity

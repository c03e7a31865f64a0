import Mathlib.Data.List.Forall2
import RecordQuery.Pattern.Expansion
import RecordQuery.Proofs.Similarity.Numeral
import RecordQuery.Text.Address
import RecordQuery.Text.Form

/-!
# Forms with digits

Hyphenated numbers are told by templates, in which `d` stands for a digit and every other character
for itself; times of day and addresses by the numbers that they are made of.  The recognisers take
the decimal digits of all scripts where a form has a digit, but for the octets of an address, and
for digits of a time that are bounded by themselves.  A text without digits of other scripts is
therefore recognised exactly if it has the form.

* `Fits`: a text has the form of a template, in given digits.
* `IsTime`, `IsAddress`: times of day and addresses.
* `NoOtherDigits`: all digits of a text are those of ASCII.
* `splitOn_eq_cons_iff`: the parts of a text between marks.
* `fits_hyphenTemplate_iff`, `isDigits_iff`, `isTime_iff`: forms by their recognisers, for texts
  without digits of other scripts.
* `isAddress_iff`: an address is recognised by its form alone.
-/

namespace RecordQuery.Text

open Binary64 (digitsValue)
open Pattern (splitOn_ne_nil splitOn_append splitOn_eq_singleton)
open Similarity (decimalDigits isDigit_iff mem_decimalDigits)

/-- A text has the form of a template. -/
def Fits (isDigit : Char → Bool) (template cs : List Char) : Prop :=
  List.Forall₂ (fun t c => if t = 'd' then isDigit c = true else c = t) template cs

/-- The template of groups of digits with hyphens between them. -/
def hyphenTemplate : (lengths : List Nat) → List Char
  | [] => []
  | [n] => List.replicate n 'd'
  | n :: lengths => List.replicate n 'd' ++ '-' :: hyphenTemplate lengths

/-- A decimal number up to a bound, in digits of ASCII; how many of them is bounded, too. -/
structure IsNumber (least most bound : Nat) (ds : List Char) : Prop where
  least_le : least ≤ ds.length
  le_most : ds.length ≤ most
  isDigit : ∀ d ∈ ds, d.isDigit = true
  le_bound : digitsValue ds ≤ bound

/-- A time of day from 00:00 to 23:59, with or without seconds from 00 to 59 and a fraction of one
to three digits. -/
inductive IsTime : List Char → Prop
  | minutes {h m : List Char} (hh : IsNumber 2 2 23 h) (hm : IsNumber 2 2 59 m) :
    IsTime (h ++ ':' :: m)
  | seconds {h m s : List Char} (hh : IsNumber 2 2 23 h) (hm : IsNumber 2 2 59 m)
    (hs : IsNumber 2 2 59 s) :
    IsTime (h ++ ':' :: (m ++ ':' :: s))
  | fraction {h m s f : List Char} (hh : IsNumber 2 2 23 h) (hm : IsNumber 2 2 59 m)
    (hs : IsNumber 2 2 59 s)
    (hf : IsNumber 1 3 999 f) : IsTime (h ++ ':' :: (m ++ ':' :: (s ++ '.' :: f)))

/-- An address of four numbers of one to three digits up to 255, with dots between them. -/
def IsAddress (cs : List Char) : Prop :=
  ∃ k l m n, cs = k ++ '.' :: (l ++ '.' :: (m ++ '.' :: n)) ∧ IsNumber 1 3 255 k ∧
    IsNumber 1 3 255 l ∧ IsNumber 1 3 255 m ∧ IsNumber 1 3 255 n

/-- All decimal digits of a text are those of ASCII. -/
def NoOtherDigits (cs : List Char) : Prop := ∀ c ∈ cs, isDecimalDigit c = true → c.isDigit = true

/-! ### Digits of all scripts -/

theorem ne_of_digit {isDigit : Char → Bool} {mark c : Char} (hmark : isDigit mark = false)
    (h : isDigit c = true) : c ≠ mark := by
  rintro rfl
  rw [h] at hmark
  cases hmark

theorem isDecimalDigit_of_isDigit {c : Char} (h : c.isDigit = true) : isDecimalDigit c = true := by
  have hcode := isDigit_iff.mp h
  rw [isDecimalDigit, CodeRanges.contains, List.any_eq_true]
  exact ⟨(0x30, 0x39), by decide, by simp; omega⟩

theorem CodeRanges.contains_eq_false_of_apart {ranges others : CodeRanges}
    (h : (ranges.all fun r => others.all fun s => r.2 < s.1 || s.2 < r.1) = true) {code : Nat}
    (hcode : ranges.contains code = true) : others.contains code = false := by
  rw [contains, List.any_eq_true] at hcode
  rw [contains, List.any_eq_false]
  obtain ⟨r, hr, hin⟩ := hcode
  intro s hs
  have happart := List.all_eq_true.mp (List.all_eq_true.mp h r hr) s hs
  simp only [Bool.and_eq_true, Bool.or_eq_true, decide_eq_true_eq] at hin happart ⊢
  omega

theorem isBlank_of_isDecimalDigit {c : Char} (h : isDecimalDigit c = true) : isBlank c = false :=
  CodeRanges.contains_eq_false_of_apart (by decide +kernel) h

theorem noOtherDigits_nil : NoOtherDigits [] := by simp [NoOtherDigits]

theorem noOtherDigits_append {cs ds : List Char} :
    NoOtherDigits (cs ++ ds) ↔ NoOtherDigits cs ∧ NoOtherDigits ds := List.forall_mem_append

theorem noOtherDigits_cons {c : Char} {cs : List Char} :
    NoOtherDigits (c :: cs) ↔ (isDecimalDigit c = true → c.isDigit = true) ∧ NoOtherDigits cs :=
  List.forall_mem_cons

theorem noOtherDigits_mark {mark : Char} (h : isDecimalDigit mark = false) {cs : List Char} :
    NoOtherDigits (mark :: cs) ↔ NoOtherDigits cs := by
  simp [noOtherDigits_cons, h]

theorem all_isDigit_iff {cs : List Char} :
    (∀ c ∈ cs, c.isDigit = true) ↔ (∀ c ∈ cs, isDecimalDigit c = true) ∧ NoOtherDigits cs :=
  ⟨fun h => ⟨fun c hc => isDecimalDigit_of_isDigit (h c hc), fun c hc _ => h c hc⟩,
    fun h c hc => h.2 c hc (h.1 c hc)⟩

/-! ### Templates -/

section

variable {isDigit : Char → Bool} {t u cs : List Char}

theorem fits_nil : Fits isDigit [] cs ↔ cs = [] := List.forall₂_nil_left_iff

theorem fits_digit : Fits isDigit ('d' :: t) cs ↔
    ∃ c rest, cs = c :: rest ∧ isDigit c = true ∧ Fits isDigit t rest := by
  rw [Fits, List.forall₂_cons_left_iff]
  simp only [if_true]
  constructor
  · rintro ⟨c, rest, hc, hrest, hcs⟩
    exact ⟨c, rest, hcs, hc, hrest⟩
  · rintro ⟨c, rest, hcs, hc, hrest⟩
    exact ⟨c, rest, hc, hrest, hcs⟩

theorem fits_mark {mark : Char} (hmark : mark ≠ 'd') :
    Fits isDigit (mark :: t) cs ↔ ∃ rest, cs = mark :: rest ∧ Fits isDigit t rest := by
  rw [Fits, List.forall₂_cons_left_iff]
  simp only [if_neg hmark]
  constructor
  · rintro ⟨_, rest, rfl, hrest, rfl⟩
    exact ⟨rest, rfl, hrest⟩
  · rintro ⟨rest, rfl, hrest⟩
    exact ⟨mark, rest, rfl, hrest, rfl⟩

theorem fits_digits {n : Nat} : Fits isDigit (List.replicate n 'd') cs ↔
    cs.length = n ∧ ∀ c ∈ cs, isDigit c = true := by
  induction n generalizing cs with
  | zero =>
    rw [List.replicate_zero, fits_nil, List.length_eq_zero_iff]
    exact ⟨by rintro rfl; simp, And.left⟩
  | succ n ih =>
    rw [List.replicate_succ, fits_digit]
    constructor
    · rintro ⟨c, rest, rfl, hc, hrest⟩
      obtain ⟨hlength, hall⟩ := ih.mp hrest
      exact ⟨by rw [List.length_cons, hlength], List.forall_mem_cons.mpr ⟨hc, hall⟩⟩
    · rintro ⟨hlength, hall⟩
      obtain ⟨c, rest, rfl⟩ := List.exists_cons_of_length_eq_add_one hlength
      obtain ⟨hc, hrest⟩ := List.forall_mem_cons.mp hall
      exact ⟨c, rest, rfl, hc, ih.mpr ⟨by simpa using hlength, hrest⟩⟩

theorem fits_append : Fits isDigit (t ++ u) cs ↔
    ∃ front rest, cs = front ++ rest ∧ Fits isDigit t front ∧ Fits isDigit u rest := by
  constructor
  · intro h
    have hfront := List.forall₂_take t.length h
    have hrest := List.forall₂_drop t.length h
    rw [List.take_left] at hfront
    rw [List.drop_left] at hrest
    exact ⟨_, _, (List.take_append_drop t.length cs).symm, hfront, hrest⟩
  · rintro ⟨front, rest, rfl, hfront, hrest⟩
    exact List.rel_append hfront hrest

/-- A text has a form in digits of ASCII if it has it in those of all scripts, and no digits of
other scripts. -/
theorem fits_isDigit_iff (hmark : ∀ mark ∈ t, mark ≠ 'd' → isDecimalDigit mark = false) :
    Fits Char.isDigit t cs ↔ Fits isDecimalDigit t cs ∧ NoOtherDigits cs := by
  induction t generalizing cs with
  | nil =>
    rw [fits_nil, fits_nil]
    exact ⟨by rintro rfl; exact ⟨rfl, noOtherDigits_nil⟩, And.left⟩
  | cons mark t ih =>
    obtain ⟨hfirst, ht⟩ := List.forall_mem_cons.mp hmark
    by_cases hd : mark = 'd'
    · subst hd
      rw [fits_digit, fits_digit]
      constructor
      · rintro ⟨c, rest, rfl, hc, hrest⟩
        obtain ⟨hfits, hnone⟩ := (ih ht).mp hrest
        exact ⟨⟨c, rest, rfl, isDecimalDigit_of_isDigit hc, hfits⟩,
          noOtherDigits_cons.mpr ⟨fun _ => hc, hnone⟩⟩
      · rintro ⟨⟨c, rest, rfl, hc, hrest⟩, hnone⟩
        obtain ⟨himp, hnone⟩ := noOtherDigits_cons.mp hnone
        exact ⟨c, rest, rfl, himp hc, (ih ht).mpr ⟨hrest, hnone⟩⟩
    · rw [fits_mark hd, fits_mark hd]
      constructor
      · rintro ⟨rest, rfl, hrest⟩
        obtain ⟨hfits, hnone⟩ := (ih ht).mp hrest
        exact ⟨⟨rest, rfl, hfits⟩, (noOtherDigits_mark (hfirst hd)).mpr hnone⟩
      · rintro ⟨⟨rest, rfl, hrest⟩, hnone⟩
        exact ⟨rest, rfl, (ih ht).mpr ⟨hrest, (noOtherDigits_mark (hfirst hd)).mp hnone⟩⟩

end

/-! ### Parts between marks -/

/-- The parts between marks by the first of them. -/
theorem splitOn_eq_cons_iff {mark : Char} {cs part : List Char} {parts : List (List Char)} :
    splitOn (· == mark) cs = part :: parts ↔
      mark ∉ part ∧ (cs = part ∧ parts = [] ∨
        ∃ rest, cs = part ++ mark :: rest ∧ splitOn (· == mark) rest = parts) := by
  have hkept {part : List Char} (h : mark ∉ part) : splitOn (· == mark) part = [part] :=
    splitOn_eq_singleton fun c hc => beq_false_of_ne fun heq => h (heq ▸ hc)
  constructor
  · intro h
    -- the first character is a mark, or one of the first part
    induction cs generalizing part with
    | nil =>
      obtain ⟨rfl, rfl⟩ : [] = part ∧ [] = parts := by simpa [splitOn] using h
      exact ⟨List.not_mem_nil, .inl ⟨rfl, rfl⟩⟩
    | cons c cs ih =>
      obtain ⟨next, others, hnext⟩ := List.exists_cons_of_ne_nil (splitOn_ne_nil (· == mark) cs)
      rw [splitOn, hnext] at h
      dsimp only at h
      split at h
      · next hc =>
        obtain ⟨rfl, rfl⟩ := List.cons_eq_cons.mp h
        exact ⟨List.not_mem_nil, .inr ⟨cs, by rw [eq_of_beq hc, List.nil_append], hnext⟩⟩
      · next hc =>
        obtain ⟨rfl, rfl⟩ := List.cons_eq_cons.mp h
        obtain ⟨hmem, hcase⟩ := ih hnext
        have hne : mark ≠ c := fun heq => hc (beq_iff_eq.mpr heq.symm)
        refine ⟨List.not_mem_cons_of_ne_of_not_mem hne hmem, ?_⟩
        rcases hcase with ⟨rfl, rfl⟩ | ⟨rest, rfl, hrest⟩
        · exact .inl ⟨rfl, rfl⟩
        · exact .inr ⟨rest, List.cons_append.symm, hrest⟩
  · rintro ⟨hmem, ⟨rfl, rfl⟩ | ⟨rest, rfl, rfl⟩⟩
    · exact hkept hmem
    · rw [@splitOn_append _ (· == mark) mark (beq_self_eq_true mark), hkept hmem,
        List.singleton_append]

theorem exists_of_splitOn_eq {mark : Char} {cs part next : List Char} {parts : List (List Char)}
    (h : splitOn (· == mark) cs = part :: next :: parts) :
    ∃ rest, cs = part ++ mark :: rest ∧ splitOn (· == mark) rest = next :: parts := by
  obtain ⟨-, ⟨-, hnil⟩ | hrest⟩ := splitOn_eq_cons_iff.mp h
  · cases hnil
  · exact hrest

theorem not_mem_of_digits {isDigit : Char → Bool} {mark : Char} (hmark : isDigit mark = false)
    {cs : List Char} (h : ∀ c ∈ cs, isDigit c = true) : mark ∉ cs :=
  fun hmem => ne_of_digit hmark (h mark hmem) rfl

/-! ### Forms and their recognisers -/

section

variable {n m : Nat} {lengths : List Nat} {cs : List Char}

theorem isHyphenated_iff_parts : isHyphenated lengths cs = true ↔
    (splitOn (· == '-') cs).map List.length = lengths ∧
      ∀ part ∈ splitOn (· == '-') cs, ∀ c ∈ part, isDecimalDigit c = true := by
  simp only [isHyphenated, Bool.and_eq_true, beq_iff_eq, List.all_eq_true]

theorem isDecimalDigit_mark {mark : Char} (hascii : mark.toNat < 128)
    (h : mark.isDigit = false) : isDecimalDigit mark = false := by
  have hall : ∀ i : Fin 128, isDecimalDigit (Char.ofNat i) = (Char.ofNat i).isDigit := by
    decide +kernel
  have hmark := hall ⟨mark.toNat, hascii⟩
  rwa [Char.ofNat_toNat, h] at hmark

theorem isHyphenated_singleton :
    isHyphenated [n] cs = true ↔ cs.length = n ∧ ∀ c ∈ cs, isDecimalDigit c = true := by
  rw [isHyphenated_iff_parts]
  constructor
  · rintro ⟨hlengths, hdigits⟩
    obtain ⟨part, hpart, hlength⟩ := List.map_eq_singleton_iff.mp hlengths
    obtain ⟨-, ⟨rfl, -⟩ | ⟨rest, -, hrest⟩⟩ := splitOn_eq_cons_iff.mp hpart
    · exact ⟨hlength, hdigits cs (by rw [hpart]; exact List.mem_singleton_self cs)⟩
    · exact absurd hrest (splitOn_ne_nil _ rest)
  · rintro ⟨hlength, hdigits⟩
    have hhyphen : isDecimalDigit '-' = false := isDecimalDigit_mark (by decide) (by decide)
    have hpart : splitOn (· == '-') cs = [cs] :=
      splitOn_eq_cons_iff.mpr ⟨not_mem_of_digits hhyphen hdigits, .inl ⟨rfl, rfl⟩⟩
    rw [hpart]
    exact ⟨by rw [List.map_singleton, hlength], List.forall_mem_singleton.mpr hdigits⟩

theorem isHyphenated_cons : isHyphenated (n :: m :: lengths) cs = true ↔
    ∃ part rest, cs = part ++ '-' :: rest ∧
      (part.length = n ∧ ∀ c ∈ part, isDecimalDigit c = true) ∧
      isHyphenated (m :: lengths) rest = true := by
  simp only [isHyphenated_iff_parts]
  constructor
  · rintro ⟨hlengths, hdigits⟩
    obtain ⟨part, parts, hparts, hlength, hothers⟩ := List.map_eq_cons_iff.mp hlengths
    rw [hparts] at hdigits
    obtain ⟨hpart, hdigits⟩ := List.forall_mem_cons.mp hdigits
    obtain ⟨-, ⟨-, rfl⟩ | ⟨rest, rfl, rfl⟩⟩ := splitOn_eq_cons_iff.mp hparts
    · cases hothers
    · exact ⟨part, rest, rfl, ⟨hlength, hpart⟩, hothers, hdigits⟩
  · rintro ⟨part, rest, hcs, ⟨hlength, hpart⟩, hothers, hdigits⟩
    have hhyphen : isDecimalDigit '-' = false := isDecimalDigit_mark (by decide) (by decide)
    have hparts : splitOn (· == '-') cs = part :: splitOn (· == '-') rest :=
      splitOn_eq_cons_iff.mpr ⟨not_mem_of_digits hhyphen hpart, .inr ⟨rest, hcs, rfl⟩⟩
    rw [hparts, List.map_cons, hlength, hothers]
    exact ⟨rfl, List.forall_mem_cons.mpr ⟨hpart, hdigits⟩⟩

theorem isHyphenated_iff (hne : lengths ≠ []) :
    isHyphenated lengths cs = true ↔ Fits isDecimalDigit (hyphenTemplate lengths) cs := by
  fun_induction hyphenTemplate lengths generalizing cs with
  | case1 => exact absurd rfl hne
  | case2 n => rw [isHyphenated_singleton, fits_digits]
  | case3 n lengths hrest ih =>
    obtain ⟨m, lengths, rfl⟩ := List.exists_cons_of_ne_nil hrest
    have hmark : '-' ≠ 'd' := by decide
    simp only [isHyphenated_cons, ih hrest, fits_append, fits_digits, fits_mark hmark]
    constructor
    · rintro ⟨part, rest, hcs, hpart, hrest⟩
      exact ⟨part, '-' :: rest, hcs, hpart, rest, rfl, hrest⟩
    · rintro ⟨part, _, hcs, hpart, rest, rfl, hrest⟩
      exact ⟨part, rest, hcs, hpart, hrest⟩

theorem eq_d_or_hyphen_of_mem {mark : Char} (h : mark ∈ hyphenTemplate lengths) :
    mark = 'd' ∨ mark = '-' := by
  fun_induction hyphenTemplate lengths with
  | case1 => cases h
  | case2 n => exact .inl (List.eq_of_mem_replicate h)
  | case3 n lengths hrest ih =>
    rcases List.mem_append.mp h with h | h
    · exact .inl (List.eq_of_mem_replicate h)
    · exact (List.mem_cons.mp h).elim .inr ih

/-- **Hyphenated numbers** are recognised as they are written if they have no digits of other
scripts. -/
theorem fits_hyphenTemplate_iff (hne : lengths ≠ []) :
    Fits Char.isDigit (hyphenTemplate lengths) cs ↔
      isHyphenated lengths cs = true ∧ NoOtherDigits cs := by
  rw [isHyphenated_iff hne]
  refine fits_isDigit_iff fun mark hmem hne => ?_
  rw [(eq_d_or_hyphen_of_mem hmem).resolve_left hne]
  exact isDecimalDigit_mark (by decide) (by decide)

end

theorem isOctet_iff {ds : List Char} : isOctet ds = true ↔ IsNumber 1 3 255 ds := by
  simp only [isOctet, Bool.and_eq_true, bne_iff_ne, decide_eq_true_eq, List.all_eq_true]
  constructor
  · rintro ⟨⟨⟨hne, hlength⟩, hdigits⟩, hvalue⟩
    exact ⟨List.length_pos_iff.mpr hne, hlength, hdigits, hvalue⟩
  · rintro ⟨hne, hlength, hdigits, hvalue⟩
    exact ⟨⟨⟨List.length_pos_iff.mp hne, hlength⟩, hdigits⟩, hvalue⟩

/-- **Addresses** are recognised as they are written. -/
theorem isAddress_iff {cs : List Char} : IsAddress cs ↔ isFourOctets cs = true := by
  simp only [isFourOctets, Bool.and_eq_true, beq_iff_eq, List.all_eq_true, isOctet_iff]
  have hdot {ds : List Char} (h : IsNumber 1 3 255 ds) : '.' ∉ ds :=
    not_mem_of_digits (by decide) h.isDigit
  constructor
  · rintro ⟨k, l, m, n, hcs, hk, hl, hm, hn⟩
    have hparts : splitOn (· == '.') cs = [k, l, m, n] := by
      refine splitOn_eq_cons_iff.mpr ⟨hdot hk, .inr ⟨_, hcs, ?_⟩⟩
      refine splitOn_eq_cons_iff.mpr ⟨hdot hl, .inr ⟨_, rfl, ?_⟩⟩
      refine splitOn_eq_cons_iff.mpr ⟨hdot hm, .inr ⟨_, rfl, ?_⟩⟩
      exact splitOn_eq_cons_iff.mpr ⟨hdot hn, .inl ⟨rfl, rfl⟩⟩
    rw [hparts]
    exact ⟨rfl, by simp [hk, hl, hm, hn]⟩
  · rintro ⟨hlength, hoctets⟩
    obtain ⟨k, l, m, n, hparts⟩ := List.length_eq_four.mp hlength
    rw [hparts] at hoctets
    obtain ⟨lmn, hk, hlmn⟩ := exists_of_splitOn_eq hparts
    obtain ⟨mn, hl, hmn⟩ := exists_of_splitOn_eq hlmn
    obtain ⟨rest, hm, hn⟩ := exists_of_splitOn_eq hmn
    obtain ⟨-, ⟨rfl, -⟩ | ⟨_, -, hnil⟩⟩ := splitOn_eq_cons_iff.mp hn
    · exact ⟨k, l, m, rest, by rw [hk, hl, hm], by simpa using hoctets⟩
    · exact absurd hnil (splitOn_ne_nil _ _)

/-! ### Times of day -/

section

variable {a b : Char} {cs ds : List Char}

theorem IsNumber.noOtherDigits {least most bound : Nat} (h : IsNumber least most bound ds) :
    NoOtherDigits ds := fun d hd _ => h.isDigit d hd

theorem isDigit_of_le {top : Char} (htop : top.toNat ≤ 57) (hlow : '0' ≤ a) (hhigh : a ≤ top) :
    a.isDigit = true := by
  rw [Char.le_def, UInt32.le_iff_toNat_le] at hlow hhigh
  exact isDigit_iff.mpr ⟨hlow, le_trans hhigh htop⟩

theorem digitsValue_lt (h : ∀ d ∈ ds, d.isDigit = true) : digitsValue ds < 10 ^ ds.length := by
  rw [Similarity.digitsValue_eq_ofDigits]
  have hlt : ∀ n ∈ (ds.map Similarity.digitValue).reverse, n < 10 := by
    intro n hn
    obtain ⟨d, hd, rfl⟩ := List.mem_map.mp (List.mem_reverse.mp hn)
    exact Similarity.digitValue_lt (h d hd)
  simpa using Nat.ofDigits_lt_base_pow_length (by decide) hlt

theorem isNumber_two_iff {bound : Nat} : IsNumber 2 2 bound ds ↔
    ∃ a b, ds = [a, b] ∧ a.isDigit = true ∧ b.isDigit = true ∧ digitsValue [a, b] ≤ bound := by
  constructor
  · rintro ⟨hleast, hmost, hdigits, hbound⟩
    obtain ⟨a, b, rfl⟩ := List.length_eq_two.mp (le_antisymm hmost hleast)
    exact ⟨a, b, rfl, hdigits a (by simp), hdigits b (by simp), hbound⟩
  · rintro ⟨a, b, rfl, ha, hb, hbound⟩
    exact ⟨le_refl 2, le_refl 2, by simp [ha, hb], hbound⟩

/-- What a test of two characters accepts is a number up to a bound, given that it is one for all
digits of ASCII. -/
theorem isNumber_pair_iff {test : Char → Char → Bool} {bound : Nat}
    (hdigits : ∀ a b, test a b = true → a.isDigit = true ∧ isDecimalDigit b = true)
    (htest : (decimalDigits.all fun a => decimalDigits.all fun b =>
      test a b == decide (digitsValue [a, b] ≤ bound)) = true) :
    IsNumber 2 2 bound [a, b] ↔ test a b = true ∧ NoOtherDigits [a, b] := by
  have hbound (ha : a.isDigit = true) (hb : b.isDigit = true) :
      test a b = decide (digitsValue [a, b] ≤ bound) :=
    eq_of_beq (List.all_eq_true.mp (List.all_eq_true.mp htest a (mem_decimalDigits ha)) b
      (mem_decimalDigits hb))
  constructor
  · intro h
    obtain ⟨_, _, heq, ha, hb, hle⟩ := isNumber_two_iff.mp h
    obtain ⟨rfl, rfl⟩ : a = _ ∧ b = _ := by simpa using heq
    exact ⟨by rw [hbound ha hb, decide_eq_true hle], h.noOtherDigits⟩
  · rintro ⟨h, hnone⟩
    obtain ⟨ha, hb⟩ := hdigits a b h
    have hb : b.isDigit = true := hnone b (by simp) hb
    rw [hbound ha hb] at h
    exact isNumber_two_iff.mpr ⟨a, b, rfl, ha, hb, of_decide_eq_true h⟩

theorem isNumber_hour_iff : IsNumber 2 2 23 [a, b] ↔ isHour a b = true ∧ NoOtherDigits [a, b] := by
  refine isNumber_pair_iff (fun a b h => ?_) (by decide +kernel)
  simp only [isHour, Bool.or_eq_true, Bool.and_eq_true, beq_iff_eq, decide_eq_true_eq] at h
  rcases h with ⟨rfl | rfl, hb⟩ | ⟨⟨rfl, hlow⟩, hhigh⟩
  · exact ⟨rfl, hb⟩
  · exact ⟨rfl, hb⟩
  · exact ⟨rfl, isDecimalDigit_of_isDigit (isDigit_of_le (by decide) hlow hhigh)⟩

theorem isNumber_sixtieth_iff :
    IsNumber 2 2 59 [a, b] ↔ isSixtieth a b = true ∧ NoOtherDigits [a, b] := by
  refine isNumber_pair_iff (fun a b h => ?_) (by decide +kernel)
  simp only [isSixtieth, Bool.and_eq_true, decide_eq_true_eq] at h
  exact ⟨isDigit_of_le (by decide) h.1.1 h.1.2, h.2⟩

theorem isDigits_iff :
    (∀ d ∈ ds, d.isDigit = true) ∧ ds ≠ [] ↔ isDigits ds = true ∧ NoOtherDigits ds := by
  simp only [isDigits, Bool.and_eq_true, bne_iff_ne, List.all_eq_true, all_isDigit_iff]
  tauto

theorem isNumber_fraction_iff :
    IsNumber 1 3 999 ds ↔ (isDigits ds = true ∧ ds.length ≤ 3) ∧ NoOtherDigits ds := by
  constructor
  · intro h
    have hdigits := isDigits_iff.mp ⟨h.isDigit, List.length_pos_iff.mp h.least_le⟩
    exact ⟨⟨hdigits.1, h.le_most⟩, hdigits.2⟩
  · rintro ⟨⟨hdigits, hlength⟩, hnone⟩
    obtain ⟨hall, hne⟩ := isDigits_iff.mpr ⟨hdigits, hnone⟩
    have hpow : 10 ^ ds.length ≤ 10 ^ 3 := Nat.pow_le_pow_right (by decide) hlength
    exact ⟨List.length_pos_iff.mpr hne, hlength, hall, by have := digitsValue_lt hall; omega⟩

theorem noOtherDigits_pair :
    NoOtherDigits (a :: b :: cs) ↔ NoOtherDigits [a, b] ∧ NoOtherDigits cs :=
  @noOtherDigits_append [a, b] cs

theorem isMillisecondPart_iff : isMillisecondPart cs = true ∧ NoOtherDigits cs ↔
    cs = [] ∨ ∃ f, cs = '.' :: f ∧ IsNumber 1 3 999 f := by
  have hpoint : isDecimalDigit '.' = false := isDecimalDigit_mark (by decide) (by decide)
  constructor
  · rintro ⟨h, hnone⟩
    fun_cases isMillisecondPart cs with
    | case1 => exact .inl rfl
    | case2 ds =>
      rw [isMillisecondPart, Bool.and_eq_true, decide_eq_true_eq] at h
      exact .inr ⟨ds, rfl, isNumber_fraction_iff.mpr ⟨h, (noOtherDigits_mark hpoint).mp hnone⟩⟩
    | case3 => rw [isMillisecondPart] at h <;> simp_all
  · rintro (rfl | ⟨f, rfl, hf⟩)
    · exact ⟨rfl, noOtherDigits_nil⟩
    · obtain ⟨h, hnone⟩ := isNumber_fraction_iff.mp hf
      rw [isMillisecondPart, Bool.and_eq_true, decide_eq_true_eq, noOtherDigits_mark hpoint]
      exact ⟨h, hnone⟩

theorem isSecondPart_iff : isSecondPart cs = true ∧ NoOtherDigits cs ↔
    cs = [] ∨ ∃ s rest, cs = ':' :: (s ++ rest) ∧ IsNumber 2 2 59 s ∧
      (isMillisecondPart rest = true ∧ NoOtherDigits rest) := by
  have hcolon : isDecimalDigit ':' = false := isDecimalDigit_mark (by decide) (by decide)
  constructor
  · rintro ⟨h, hnone⟩
    fun_cases isSecondPart cs with
    | case1 => exact .inl rfl
    | case2 a b rest =>
      rw [isSecondPart, Bool.and_eq_true] at h
      rw [noOtherDigits_mark hcolon, noOtherDigits_pair] at hnone
      exact .inr ⟨[a, b], rest, rfl, isNumber_sixtieth_iff.mpr ⟨h.1, hnone.1⟩, h.2, hnone.2⟩
    | case3 => rw [isSecondPart] at h <;> simp_all
  · rintro (rfl | ⟨s, rest, rfl, hs, hrest, hnone⟩)
    · exact ⟨rfl, noOtherDigits_nil⟩
    · obtain ⟨a, b, rfl, -⟩ := isNumber_two_iff.mp hs
      rw [noOtherDigits_mark hcolon, noOtherDigits_append]
      refine ⟨?_, hs.noOtherDigits, hnone⟩
      show (isSixtieth a b && isMillisecondPart rest) = true
      rw [(isNumber_sixtieth_iff.mp hs).1, hrest, Bool.true_and]

theorem isTimeOfDay_iff : isTimeOfDay cs = true ∧ NoOtherDigits cs ↔
    ∃ h m rest, cs = h ++ ':' :: (m ++ rest) ∧ IsNumber 2 2 23 h ∧ IsNumber 2 2 59 m ∧
      (isSecondPart rest = true ∧ NoOtherDigits rest) := by
  have hcolon : isDecimalDigit ':' = false := isDecimalDigit_mark (by decide) (by decide)
  constructor
  · rintro ⟨h, hnone⟩
    fun_cases isTimeOfDay cs with
    | case1 a b c d rest =>
      rw [isTimeOfDay, Bool.and_eq_true, Bool.and_eq_true] at h
      obtain ⟨hhour, hnone⟩ := noOtherDigits_pair.mp hnone
      obtain ⟨hminute, hrest⟩ := noOtherDigits_pair.mp ((noOtherDigits_mark hcolon).mp hnone)
      exact ⟨[a, b], [c, d], rest, rfl, isNumber_hour_iff.mpr ⟨h.1.1, hhour⟩,
        isNumber_sixtieth_iff.mpr ⟨h.1.2, hminute⟩, h.2, hrest⟩
    | case2 => rw [isTimeOfDay] at h <;> simp_all
  · rintro ⟨h, m, rest, rfl, hh, hm, hrest, hnone⟩
    obtain ⟨a, b, rfl, -⟩ := isNumber_two_iff.mp hh
    obtain ⟨c, d, rfl, -⟩ := isNumber_two_iff.mp hm
    rw [noOtherDigits_append, noOtherDigits_mark hcolon, noOtherDigits_append]
    refine ⟨?_, hh.noOtherDigits, hm.noOtherDigits, hnone⟩
    show (isHour a b && isSixtieth c d && isSecondPart rest) = true
    rw [(isNumber_hour_iff.mp hh).1, (isNumber_sixtieth_iff.mp hm).1, hrest]
    rfl

/-- **Times of day** are recognised as they are written if they have no digits of other scripts. -/
theorem isTime_iff : IsTime cs ↔ isTimeOfDay cs = true ∧ NoOtherDigits cs := by
  simp only [isTimeOfDay_iff, isSecondPart_iff, isMillisecondPart_iff]
  constructor
  · rintro (⟨hh, hm⟩ | ⟨hh, hm, hs⟩ | ⟨hh, hm, hs, hf⟩)
    · exact ⟨_, _, [], by rw [List.append_nil], hh, hm, .inl rfl⟩
    · exact ⟨_, _, _, rfl, hh, hm, .inr ⟨_, [], by rw [List.append_nil], hs, .inl rfl⟩⟩
    · exact ⟨_, _, _, rfl, hh, hm, .inr ⟨_, _, rfl, hs, .inr ⟨_, rfl, hf⟩⟩⟩
  · rintro ⟨h, m, _, rfl, hh, hm, rfl | ⟨s, _, rfl, hs, rfl | ⟨f, rfl, hf⟩⟩⟩
    · rw [List.append_nil]
      exact .minutes hh hm
    · rw [List.append_nil]
      exact .seconds hh hm hs
    · exact .fraction hh hm hs hf

end

end RecordQuery.Text

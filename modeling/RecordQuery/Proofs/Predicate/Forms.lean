import RecordQuery.Proofs.Binary64.Rounding
import RecordQuery.Proofs.Expression.Spelling
import RecordQuery.Proofs.Pattern.Combination
import RecordQuery.Proofs.Text.Form
import RecordQuery.Proofs.Transform.Radix

/-!
# Digits in tests and numbers

The tests of forms with digits take those of all scripts, where numbers are read in digits of ASCII
only.

* `Text.number?_digits`: a text of digits as a number.
* `Registry.accepts_form`: a test of a form, asked for by its operator.
* `Registry.digit_forms_iff`: the forms and numbers that have digits, by the texts that are
  accepted.
-/

namespace RecordQuery

namespace Binary64

theorem isNaN_ofNat (n : Nat) : (ofNat n).isNaN = false := by
  rw [Bool.eq_false_iff, Ne, isNaN_iff]
  by_cases hn : n < overflowBound
  · obtain ⟨k, hk⟩ := (integer?_ofNat_iff n).mpr hn
    intro hparts
    rw [integer?, hparts] at hk
    cases hk
  · have hlarge : 53 ≤ n.log2 := Nat.not_lt.mp fun hlog => hn (lt_overflowBound hlog)
    rw [(parts_ofNat_large hlarge).2 (Nat.not_lt.mp hn)]
    exact Parts.noConfusion

end Binary64

namespace Text

open Binary64 (digitsValue)

variable {cs : List Char}

theorem isDecimalDigit_toLower (c : Char) : isDecimalDigit c.toLower = isDecimalDigit c :=
  forall_toLower (by decide +kernel) c

/-- A text of digits begins with none of the letters of a word. -/
theorem map_toLower_ne_cons (h : ∀ c ∈ cs, isDecimalDigit c = true) {letter : Char}
    (hletter : isDecimalDigit letter = false) (word : List Char) :
    cs.map Char.toLower ≠ letter :: word := by
  intro heq
  obtain ⟨c, rest, rfl, hlower, -⟩ := List.map_eq_cons_iff.mp heq
  exact ne_of_digit hletter
    ((isDecimalDigit_toLower c).trans (h c List.mem_cons_self)) hlower

theorem not_marked_of_digits (h : ∀ c ∈ cs, isDecimalDigit c = true) : ¬ Marked cs := by
  rintro ⟨letter, hletter, rest, hrest⟩
  obtain ⟨c, hc, hlower⟩ := List.mem_map.mp (show letter ∈ cs.map Char.toLower by simp [← hrest])
  have hdigit : isDecimalDigit letter = true := by rw [← hlower, isDecimalDigit_toLower, h c hc]
  simp only [List.mem_cons, List.not_mem_nil, or_false] at hletter
  rcases hletter with rfl | rfl | rfl
  · exact absurd hdigit (by decide +kernel)
  · exact absurd hdigit (by decide +kernel)
  · exact absurd hdigit (by decide +kernel)

theorem readDecimal?_digits (hne : cs ≠ []) (h : ∀ c ∈ cs, c.isDigit = true) :
    Binary64.readDecimal? cs = some (Binary64.ofNat (digitsValue cs)) := by
  have hdecimal : ∀ c ∈ cs, isDecimalDigit c = true :=
    fun c hc => isDecimalDigit_of_isDigit (h c hc)
  have hsign : Binary64.spanSign cs = (false, cs) := by
    unfold Binary64.spanSign
    split
    · exact absurd (h '-' List.mem_cons_self) (by decide)
    · exact absurd (h '+' List.mem_cons_self) (by decide)
    · rfl
  have hspecial : Binary64.readSpecial? cs = none := by
    have hi := @map_toLower_ne_cons cs hdecimal 'i' (by decide +kernel)
    have hn := @map_toLower_ne_cons cs hdecimal 'n' (by decide +kernel)
    have hinf : ¬ (cs.map Char.toLower = "inf".toList ∨ cs.map Char.toLower = "infinity".toList) :=
      fun heq => heq.elim (hi _) (hi _)
    have hnan : cs.map Char.toLower ≠ "nan".toList := hn _
    rw [Binary64.readSpecial?, if_neg hinf, if_neg hnan]
  rw [Binary64.readDecimal?, hsign]
  dsimp only
  rw [hspecial, Binary64.readNumeral?_integer h, if_neg hne]
  rfl

theorem decimal?_digits (hne : cs ≠ []) (h : ∀ c ∈ cs, isDecimalDigit c = true) :
    (NoOtherDigits cs → decimal? cs = some (Binary64.ofNat (digitsValue cs))) ∧
      (¬ NoOtherDigits cs → decimal? cs = none) := by
  have hmark {mark : Char} (hmark : isDecimalDigit mark = false) {c : Char} (hc : c ∈ cs) :
      (c == mark) = false := beq_false_of_ne (ne_of_digit hmark (h c hc))
  have hdrop : (cs.dropWhile fun c => c == '+' || c == '-') = cs := by
    refine dropWhile_eq_self fun c hc => ?_
    have hc := List.mem_of_mem_head? hc
    rw [hmark (by decide +kernel) hc, hmark (by decide +kernel) hc, Bool.or_false]
  have hword : cs ≠ "Infinity".toList := by
    rintro rfl
    exact absurd (h 'I' (by decide)) (by decide +kernel)
  rw [decimal?, hdrop, if_neg hword]
  constructor
  · intro hnone
    have hdigits := all_isDigit_iff.mpr ⟨h, hnone⟩
    rw [if_pos (List.all_eq_true.mpr fun c hc => by rw [hdigits c hc, Bool.true_or]),
      readDecimal?_digits hne hdigits]
  · intro hother
    refine if_neg fun hall => hother fun c hc _ => ?_
    have hnot : (['.', 'e', 'E', '+', '-'].contains c) = false := by
      simp only [List.contains_cons, List.contains_nil, Bool.or_false, Bool.or_eq_false_iff]
      exact ⟨hmark (by decide +kernel) hc, hmark (by decide +kernel) hc,
        hmark (by decide +kernel) hc, hmark (by decide +kernel) hc, hmark (by decide +kernel) hc⟩
    simpa only [hnot, Bool.or_false] using List.all_eq_true.mp hall c hc

/-- **A text of digits as a number** in base ten. -/
theorem number?_digits {base : Nat} (hbase : base = 10 ∨ base < 2 ∨ 36 < base) (hne : cs ≠ [])
    (h : ∀ c ∈ cs, isDecimalDigit c = true) : number? base (trimBlanks cs) = decimal? cs := by
  have hblank : ∀ c ∈ cs, isBlank c = false := fun c hc => isBlank_of_isDecimalDigit (h c hc)
  rw [trimBlanks_eq_self (fun c hc => hblank c (List.mem_of_mem_head? hc)) fun c hc =>
    hblank c (List.mem_of_mem_getLast? hc), number?, if_neg hne]
  dsimp only
  rw [Positional.markedBase?_eq_none (not_marked_of_digits h)]
  exact if_neg (by omega)

end Text

namespace Registry

open Binary64 (digitsValue overflowBound)
open RecordQuery.Path (hasSigil)
open Text (Fits IsTime IsAddress NoOtherDigits isDecimalDigit)
open Value (ReadsAs baseOf)

variable (functions : Functions) {flag : Value}

theorem accepts_form {name : String} {test : List Char → Bool} (hname : hasSigil name = true)
    (h : (builtins functions).predicate? name = some (Predicate.ofForm test))
    (hflag : flag.isTruthy = true) (s : String) :
    (builtins functions).accepts (.string s) (.record [(name, flag)]) = test s.toList := by
  rw [accepts_of_predicate hname h hflag]
  rfl

theorem accepts_numeric (hflag : flag.isTruthy = true) (s : String) :
    (builtins functions).accepts (.string s) (.record [("$isNumeric", flag)]) =
      Text.isDigits s.toList := by
  rw [accepts_of_predicate rfl rfl hflag]
  rfl

variable {functions}

theorem projected?_digits {options : Value}
    (hbase : baseOf options = 10 ∨ baseOf options < 2 ∨ 36 < baseOf options) {s : String}
    (h : Text.isDigits s.toList = true) :
    (NoOtherDigits s.toList → Value.projected? functions (.string s) "$toNumber" options =
      some (.number (Binary64.ofNat (digitsValue s.toList)))) ∧
    (¬ NoOtherDigits s.toList →
      Value.projected? functions (.string s) "$toNumber" options = none) := by
  simp only [Text.isDigits, Bool.and_eq_true, bne_iff_ne, List.all_eq_true] at h
  obtain ⟨hread, hunread⟩ := Text.decimal?_digits h.1 h.2
  rw [Value.projected?_toNumber, Text.number?_digits hbase h.1 h.2]
  constructor
  · intro hnone
    rw [hread hnone, Option.filter_some, if_pos (by rw [Binary64.isNaN_ofNat]; rfl)]
    rfl
  · intro hother
    rw [hunread hother]
    rfl

theorem exists_readsAs_iff {options : Value}
    (hbase : baseOf options = 10 ∨ baseOf options < 2 ∨ 36 < baseOf options) {s : String}
    (h : Text.isDigits s.toList = true) :
    (∃ n : Nat, ReadsAs functions s options n) ↔
      NoOtherDigits s.toList ∧ digitsValue s.toList < overflowBound := by
  obtain ⟨hread, hunread⟩ := @projected?_digits functions options hbase s h
  rw [← Binary64.integer?_ofNat_iff]
  constructor
  · rintro ⟨n, x, hx, hn⟩
    by_cases hnone : NoOtherDigits s.toList
    · rw [hread hnone] at hx
      obtain rfl : _ = x := by simpa using hx
      exact ⟨hnone, n, hn⟩
    · rw [hunread hnone] at hx
      cases hx
  · rintro ⟨hnone, n, hn⟩
    exact ⟨n, _, hread hnone, hn⟩

/-- **Forms with digits.**  A text that has no digits of other scripts than ASCII is accepted by a
test of a form exactly if it has the form; for addresses other digits make no difference.  With
digits of other scripts it does not have the form, but is accepted if each of the digits stands
where the form has any digit.  What is accepted as digits is then no number, and otherwise their
number, rounded to a double, which is an integer up to the range of doubles. -/
theorem digit_forms_iff (functions : Functions) {flag : Value} (hflag : flag.isTruthy = true)
    (s : String) :
    let passes (name : String) : Prop :=
      (builtins functions).accepts (.string s) (.record [(name, flag)]) = true
    let plain : Prop := NoOtherDigits s.toList
    (Fits Char.isDigit "ddd-dd-dddd".toList s.toList ↔ passes "$isSSN" ∧ plain) ∧
    (passes "$isSSN" ↔ Fits isDecimalDigit "ddd-dd-dddd".toList s.toList) ∧
    (Fits Char.isDigit "ddd-ddd-dddd".toList s.toList ↔ passes "$isUSTel" ∧ plain) ∧
    (passes "$isUSTel" ↔ Fits isDecimalDigit "ddd-ddd-dddd".toList s.toList) ∧
    ((∀ d ∈ s.toList, d.isDigit = true) ∧ s.toList ≠ [] ↔ passes "$isNumeric" ∧ plain) ∧
    (IsTime s.toList ↔ passes "$isTime" ∧ plain) ∧
    (IsAddress s.toList ↔ passes "$isIP4") ∧
    (passes "$isNumeric" → ∀ options : Value,
      baseOf options = 10 ∨ baseOf options < 2 ∨ 36 < baseOf options →
        (plain → Value.projected? functions (.string s) "$toNumber" options =
          some (.number (Binary64.ofNat (digitsValue s.toList)))) ∧
        (¬ plain → Value.projected? functions (.string s) "$toNumber" options = none) ∧
        ((∃ n : Nat, ReadsAs functions s options n) ↔
          plain ∧ digitsValue s.toList < overflowBound)) := by
  intro passes plain
  have hssn : passes "$isSSN" ↔ Text.isHyphenated [3, 2, 4] s.toList = true :=
    iff_of_eq (congrArg (· = true) (accepts_form functions rfl rfl hflag s))
  have htel : passes "$isUSTel" ↔ Text.isHyphenated [3, 3, 4] s.toList = true :=
    iff_of_eq (congrArg (· = true) (accepts_form functions rfl rfl hflag s))
  have htime : passes "$isTime" ↔ Text.isTimeOfDay s.toList = true :=
    iff_of_eq (congrArg (· = true) (accepts_form functions rfl rfl hflag s))
  have haddress : passes "$isIP4" ↔ Text.isFourOctets s.toList = true :=
    iff_of_eq (congrArg (· = true) (accepts_form functions rfl rfl hflag s))
  have hnumeric : passes "$isNumeric" ↔ Text.isDigits s.toList = true :=
    iff_of_eq (congrArg (· = true) (accepts_numeric functions hflag s))
  rw [hssn, htel, htime, haddress, hnumeric]
  have hthree : [3, 2, 4] ≠ [] ∧ [3, 3, 4] ≠ [] := by decide
  refine ⟨Text.fits_hyphenTemplate_iff hthree.1, Text.isHyphenated_iff hthree.1,
    Text.fits_hyphenTemplate_iff hthree.2, Text.isHyphenated_iff hthree.2, Text.isDigits_iff,
    Text.isTime_iff, Text.isAddress_iff, fun h options hbase => ?_⟩
  obtain ⟨hread, hunread⟩ := @projected?_digits functions options hbase s h
  exact ⟨hread, hunread, exists_readsAs_iff hbase h⟩

/-- Zeros in front are no mark of a base. -/
theorem digit_forms_iff_numeral :
    let functions : Functions := fun _ _ => .undefined
    (Value.bool true).isTruthy = true ∧
      (builtins functions).accepts (.string "00123") (.record [("$isNumeric", .bool true)]) = true ∧
      baseOf .undefined = 10 ∧ ∃ n : Nat, ReadsAs functions "00123" .undefined n := by
  intro functions
  obtain ⟨-, -, -, -, hnumeric, -, -, hread⟩ :=
    @digit_forms_iff functions (.bool true) rfl "00123"
  have hdigits : ∀ d ∈ "00123".toList, d.isDigit = true := List.all_eq_true.mp (by decide)
  obtain ⟨hpasses, hplain⟩ := hnumeric.mp ⟨hdigits, by decide⟩
  obtain ⟨-, -, hnumber⟩ := hread hpasses .undefined (.inl rfl)
  have hsmall : digitsValue "00123".toList < overflowBound :=
    Binary64.lt_overflowBound (by decide +kernel)
  exact ⟨rfl, hpasses, rfl, hnumber.mpr ⟨hplain, hsmall⟩⟩

/-- With a digit of another script a text is accepted that has not the form, and digits that are no
number. -/
theorem not_fits_otherDigit :
    let functions : Functions := fun _ _ => .undefined
    let accepted (name s : String) : Bool :=
      (builtins functions).accepts (.string s) (.record [(name, .bool true)])
    accepted "$isSSN" "१23-45-6789" = true ∧
      ¬ Fits Char.isDigit "ddd-dd-dddd".toList "१23-45-6789".toList ∧
      accepted "$isTime" "0१:30" = true ∧ ¬ IsTime "0१:30".toList ∧
      accepted "$isNumeric" "१23" = true ∧
      ¬ ∃ n : Nat, ReadsAs functions "१23" .undefined n := by
  intro functions accepted
  have hother {s : String} (h : '१' ∈ s.toList) : ¬ NoOtherDigits s.toList := fun hnone =>
    absurd (hnone '१' h (by decide +kernel)) (by decide)
  have hssn : accepted "$isSSN" "१23-45-6789" = true :=
    (accepts_form functions rfl rfl rfl _).trans (by decide +kernel)
  have htime : accepted "$isTime" "0१:30" = true :=
    (accepts_form functions rfl rfl rfl _).trans (by decide +kernel)
  have hdigits : Text.isDigits "१23".toList = true := by decide +kernel
  refine ⟨hssn, ?_, htime, ?_, (accepts_numeric functions rfl _).trans hdigits, ?_⟩
  · exact fun hfits => hother (by decide)
      ((@Text.fits_hyphenTemplate_iff [3, 2, 4] _ (by decide)).mp hfits).2
  · exact fun htime => hother (by decide) (Text.isTime_iff.mp htime).2
  · exact fun hnumber => hother (by decide) ((exists_readsAs_iff (.inl rfl) hdigits).mp hnumber).1

end Registry

end RecordQuery

import RecordQuery.Proofs.Binary64.Rational
import RecordQuery.Proofs.Text.Positional
import RecordQuery.Proofs.Transform.Arrays

/-!
# Numbers read in a base

A text of digits in a base other than ten is read as its number, unless it begins with a zero and
the letter of the mark of a base.  A mark is looked for before the base that was asked for is used,
also where its letter is a digit of this base; a sign in front of the zero hides it.

* `Value.ReadsAs`: the number that is read from a text.
* `Value.projected?_toNumber`: the operator by the reader of numerals.
* `Value.readsAs_iff`: when the numeral of an integer is read as this integer.
* `Value.not_readsAs_marked`: a numeral that is read in the base of a mark.
-/

namespace RecordQuery.Value

open Binary64 (integer? integer?_ofInt)
open Text (Positional Marked trimBlanks)

variable (functions : Functions)

/-- A text is read as an integer, given the options. -/
def ReadsAs (text : String) (options : Value) (n : Int) : Prop :=
  ∃ x : Float, projected? functions (.string text) "$toNumber" options = some (.number x) ∧
    integer? x = some n

/-- The base that the options ask for. -/
def baseOf (options : Value) : Nat :=
  match options.numberOption? "radix" with
  | some radix => Binary64.toCount radix
  | none => 10

theorem projected?_toNumber (text : String) (options : Value) :
    projected? functions (.string text) "$toNumber" options =
      ((Text.number? (baseOf options) (trimBlanks text.toList)).filter (!·.isNaN)).map .number := by
  have hmade := @projected?_ofPartial functions "$toNumber" (fun subject options =>
    ((subject.toNumber? (baseOf options)).filter (!·.isNaN)).map .number) rfl rfl rfl
    (.string text) options
  exact hmade (by simp)

variable {base : Nat} {options : Value}

theorem baseOf_eq (h : options.numberOption? "radix" = some (Binary64.ofNat base))
    (hbase : base ≤ 36) : baseOf options = base := by
  have hinteger : integer? (Binary64.ofNat base) = some (base : Int) :=
    integer?_ofInt (n := base) (Binary64.log2_lt_iff.mpr (by omega))
  rw [baseOf, h]
  dsimp only
  rw [Binary64.toCount_of_integer? hinteger, Binary64.greatestCount]
  omega

variable {functions} {text : String}

theorem trimBlanks_of_chars (hbase : base ≤ 36) {n : Positional base}
    (h : text.toList.map Char.toLower = n.chars) : trimBlanks text.toList = text.toList := by
  have hnone : ∀ c ∈ text.toList, Text.isBlank c = false := fun c hc => by
    rw [← Text.forall_toLower (f := Text.isBlank) (by decide) c]
    exact Positional.isBlank_of_mem_chars hbase (h ▸ List.mem_map_of_mem hc)
  exact Text.trimBlanks_eq_self (fun c hc => hnone c (List.mem_of_mem_head? hc)) fun c hc =>
    hnone c (List.mem_of_mem_getLast? hc)

theorem readsAs_ofInt {n : Int} (hn : n.natAbs < 9007199254740992)
    (h : Text.number? (baseOf options) (trimBlanks text.toList) = some (Binary64.ofInt n)) :
    ReadsAs functions text options n := by
  have hinteger : integer? (Binary64.ofInt n) = some n :=
    integer?_ofInt (Binary64.log2_lt_iff.mpr hn)
  have hnan : (Binary64.ofInt n).isNaN = false := by
    rw [Bool.eq_false_iff, Ne, Binary64.isNaN_iff]
    intro hparts
    rw [integer?, hparts] at hinteger
    cases hinteger
  refine ⟨_, ?_, hinteger⟩
  rw [projected?_toNumber, h, Option.filter_some, if_pos (by rw [hnan]; rfl)]
  rfl

theorem exists_of_readsAs {n : Int} (h : ReadsAs functions text options n) :
    ∃ x, Text.number? (baseOf options) (trimBlanks text.toList) = some x ∧ integer? x = some n := by
  obtain ⟨x, hx, hinteger⟩ := h
  rw [projected?_toNumber, Option.map_eq_some_iff] at hx
  obtain ⟨y, hy, heq⟩ := hx
  obtain rfl : y = x := by simpa using heq
  exact ⟨y, (Option.filter_eq_some_iff.mp hy).1, hinteger⟩

theorem toList_ne_nil {n : Positional base} (h : text.toList.map Char.toLower = n.chars) :
    text.toList ≠ [] := by
  intro hnil
  rw [hnil] at h
  exact n.chars_ne_nil h.symm

/-- **A numeral without a mark** is read as its number. -/
theorem readsAs_of_not_marked (hbase : 2 ≤ base) (hle : base ≤ 36) (hten : base ≠ 10)
    (hradix : options.numberOption? "radix" = some (Binary64.ofNat base)) {n : Positional base}
    (hn : n.value.natAbs < 9007199254740992) (h : text.toList.map Char.toLower = n.chars)
    (hmark : ¬ Marked text.toList) : ReadsAs functions text options n.value := by
  refine readsAs_ofInt hn ?_
  rw [baseOf_eq hradix hle, trimBlanks_of_chars hle h,
    Text.number?_of_markedBase?_eq_none (toList_ne_nil h) (Positional.markedBase?_eq_none hmark)
      ⟨hten, hbase, hle⟩, h, Positional.integerIn?_chars hle hn]
  rfl

/-- **A numeral with a mark** is read as something else, if at all. -/
theorem not_readsAs_of_marked (hle : base ≤ 36) {n : Positional base}
    (hn : n.value.natAbs < 9007199254740992) (h : text.toList.map Char.toLower = n.chars)
    (hmark : Marked text.toList) : ¬ ReadsAs functions text options n.value := by
  intro hreads
  obtain ⟨x, hx, hinteger⟩ := exists_of_readsAs hreads
  obtain ⟨mark, below, rest, hpos, hlt, -, hchars, hmarked⟩ := Positional.exists_markedBase? hmark
  rw [trimBlanks_of_chars hle h, Text.number?_of_markedBase? (toList_ne_nil h) hmarked] at hx
  obtain ⟨k, hk, rfl⟩ := Option.map_eq_some_iff.mp hx
  have hsmall := Positional.natAbs_lt_value_of_marked hle hpos hlt (h.symm.trans hchars) hk
  rw [integer?_ofInt (Binary64.log2_lt_iff.mpr (by omega)), Option.some.injEq] at hinteger
  omega

/-- **Numerals in a base** from 2 to 36 other than ten, in upper or lower case, with zeros in front
and a minus sign or without, of numbers below `2 ^ 53`.  They are read as their numbers exactly if
they do not begin with the mark of a base, a zero and one of the letters X, O and B.  They do so
only if the letter is a digit, that is in bases above eleven, and if they have no sign.  An integer
that is written without zeros in front comes back in every base. -/
theorem readsAs_iff (functions : Functions) (hbase : 2 ≤ base) (hle : base ≤ 36) (hten : base ≠ 10)
    (hradix : options.numberOption? "radix" = some (Binary64.ofNat base)) :
    (∀ (n : Positional base) (text : String), text.toList.map Char.toLower = n.chars →
      n.value.natAbs < 2 ^ 53 →
        (ReadsAs functions text options n.value ↔ ¬ Marked text.toList) ∧
          (Marked text.toList → 11 < base ∧ n.negative = false)) ∧
    ∀ (n : Int) (text : String), text.toList.map Char.toLower = (Positional.ofInt hbase n).chars →
      n.natAbs < 2 ^ 53 → ReadsAs functions text options n := by
  refine ⟨fun n text h hn => ⟨⟨fun hreads hmark => ?_, ?_⟩, fun hmark => ?_⟩, fun n text h hn => ?_⟩
  · exact not_readsAs_of_marked hle hn h hmark hreads
  · exact readsAs_of_not_marked hbase hle hten hradix hn h
  · obtain ⟨mark, below, rest, -, -, hhigh, hchars, -⟩ := Positional.exists_markedBase? hmark
    obtain ⟨hnegative, d, e, ds, -, -, he, -⟩ :=
      Positional.digits_of_chars_eq hle (h.symm.trans hchars)
    have := e.isLt
    exact ⟨by omega, hnegative⟩
  · have hvalue := Positional.value_ofInt hbase n
    have hreads : ReadsAs functions text options (Positional.ofInt hbase n).value :=
      readsAs_of_not_marked hbase hle hten hradix (by rw [hvalue]; exact hn) h
        (Positional.not_marked_ofInt hbase hle h)
    rwa [hvalue] at hreads

/-- A negative number in both cases, with a zero in front that is no part of a mark, and one
without. -/
theorem readsAs_iff_hexadecimal :
    let functions : Functions := fun _ _ => .undefined
    let options : Value := .record [("radix", .number (Binary64.ofNat 16))]
    let n : Positional 16 := ⟨true, [0, 11, 15], by decide⟩
    options.numberOption? "radix" = some (Binary64.ofNat 16) ∧
      "-0Bf".toList.map Char.toLower = n.chars ∧ n.value = -191 ∧
      ReadsAs functions "-0Bf" options (-191) ∧
      "bF".toList.map Char.toLower = (Positional.ofInt (by decide : 2 ≤ 16) 191).chars ∧
      ReadsAs functions "bF" options 191 := by
  intro functions options n
  have hradix : options.numberOption? "radix" = some (Binary64.ofNat 16) := rfl
  have hchars : "-0Bf".toList.map Char.toLower = n.chars := by decide
  have hvalue : n.value = -191 := by decide
  have hwritten : "bF".toList.map Char.toLower =
      (Positional.ofInt (by decide : 2 ≤ 16) 191).chars := by decide +kernel
  obtain ⟨hnumerals, hintegers⟩ :=
    readsAs_iff functions (by decide) (by decide) (by decide) hradix
  have hmark : ¬ Marked "-0Bf".toList := by decide +kernel
  have hreads := ((hnumerals n "-0Bf" hchars (by rw [hvalue]; decide)).1).mpr hmark
  rw [hvalue] at hreads
  exact ⟨hradix, hchars, hvalue, hreads, hwritten, hintegers 191 "bF" hwritten (by decide)⟩

/-- In base sixteen `0b1` is the number 177, but it is read as the one behind the mark of base two;
with a sign in front of it the same digits are read as they are meant. -/
theorem not_readsAs_marked :
    let functions : Functions := fun _ _ => .undefined
    let options : Value := .record [("radix", .number (Binary64.ofNat 16))]
    let n : Positional 16 := ⟨false, [0, 11, 1], by decide⟩
    let m : Positional 16 := ⟨true, [0, 11, 1], by decide⟩
    "0b1".toList.map Char.toLower = n.chars ∧ n.value = 177 ∧
      ¬ ReadsAs functions "0b1" options n.value ∧ ReadsAs functions "0b1" options 1 ∧
      "-0b1".toList.map Char.toLower = m.chars ∧ m.value = -177 ∧
      ReadsAs functions "-0b1" options m.value := by
  intro functions options n m
  have hn : "0b1".toList.map Char.toLower = n.chars := by decide
  have hm : "-0b1".toList.map Char.toLower = m.chars := by decide
  refine ⟨hn, by decide, ?_, ?_, hm, by decide, ?_⟩
  · exact not_readsAs_of_marked (by decide) (by decide) hn (by decide +kernel)
  · exact readsAs_ofInt (by decide) rfl
  · exact readsAs_of_not_marked (by decide) (by decide) (by decide) rfl (by decide) hm
      (by decide +kernel)

end RecordQuery.Value

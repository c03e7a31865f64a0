import Mathlib.Data.List.Induction
import Mathlib.Data.Nat.Digits.Defs
import RecordQuery.Binary64.Numeral
import RecordQuery.Similarity.Numeral

/-!
# Integers by their readings

A digit other than zero is read as its word and the word of its place.  No word of a place has the
word of a digit in it, so that a reading falls into its digits and places, and the places that have
words are told apart by them, although some of these words begin with others.

* `heard`: the number of a reading, found from its end to its beginning.
* `heard_readOut`: the number is that of the digits, as long as all places have words.
* `eq_of_digitsValue_eq`: digits without zeros in front are those of their number.
* `readOut_eq_iff`: integers have the same reading exactly if they are the same number.
* `readOut_unnamed`: beyond the places with words there are readings of several numbers.
-/

namespace RecordQuery.Similarity

open RecordQuery.Binary64 (digitsValue)

def decimalDigits : List Char := ['0', '1', '2', '3', '4', '5', '6', '7', '8', '9']

/-- The number that a decimal digit stands for. -/
def digitValue (d : Char) : Nat := d.toNat - '0'.toNat

def placeChars (place : Nat) : List Char := ((placeWord? place).map String.toList).getD []

/-- The number of places that can be told apart by their words, that of the ones included. -/
def placeCount : Nat := 21

/-- The unit of a place by its word. -/
def unitOf (word : List Char) : Nat :=
  if word = [] then 1 else 10 ^ (placeWords.idxOf (String.ofList word) + 1)

/-- A character in front of what has been heard: what may become the word of a place, and the number
behind it. -/
def hear (c : Char) (behind : List Char × Nat) : List Char × Nat :=
  match digitWords.idxOf? c with
  | some digit => ([], digit * unitOf behind.1 + behind.2)
  | none => (c :: behind.1, behind.2)

/-- The number of a reading. -/
def heard (words : List Char) : Nat := (words.foldr hear ([], 0)).2

/-! ### Digits and their number -/

theorem isDigit_iff {d : Char} : d.isDigit = true ↔ 48 ≤ d.toNat ∧ d.toNat ≤ 57 := by
  simp only [Char.isDigit, Bool.and_eq_true, decide_eq_true_eq]
  rfl

theorem mem_decimalDigits {d : Char} (h : d.isDigit = true) : d ∈ decimalDigits := by
  obtain ⟨hlow, hhigh⟩ := isDigit_iff.mp h
  have hall : ∀ i : Fin 10, Char.ofNat (48 + i) ∈ decimalDigits := by decide
  have hd := hall ⟨d.toNat - 48, by omega⟩
  rwa [show 48 + (d.toNat - 48) = d.toNat by omega, Char.ofNat_toNat] at hd

theorem digitValue_lt {d : Char} (h : d.isDigit = true) : digitValue d < 10 := by
  have hhigh := (isDigit_iff.mp h).2
  have hzero : '0'.toNat = 48 := rfl
  unfold digitValue
  omega

theorem ofNat_digitValue {d : Char} (h : d.isDigit = true) :
    Char.ofNat ('0'.toNat + digitValue d) = d := by
  have hlow := (isDigit_iff.mp h).1
  have hzero : '0'.toNat = 48 := rfl
  rw [digitValue, show '0'.toNat + (d.toNat - '0'.toNat) = d.toNat by omega, Char.ofNat_toNat]

theorem digitValue_eq_zero_iff {d : Char} (h : d.isDigit = true) : digitValue d = 0 ↔ d = '0' := by
  refine ⟨fun hzero => ?_, fun hd => by rw [hd]; rfl⟩
  rw [← ofNat_digitValue h, hzero]
  rfl

theorem digitsValue_eq_ofDigits (ds : List Char) :
    digitsValue ds = Nat.ofDigits 10 (ds.map digitValue).reverse := by
  induction ds using List.reverseRecOn with
  | nil => rfl
  | append_singleton ds d ih =>
    rw [List.map_append, List.reverse_append, List.map_singleton, List.reverse_singleton,
      List.singleton_append, Nat.ofDigits_cons, ← ih, digitsValue, List.foldl_append, ← digitsValue]
    exact Nat.add_comm _ _

theorem digitsValue_cons (d : Char) (ds : List Char) :
    digitsValue (d :: ds) = digitValue d * 10 ^ ds.length + digitsValue ds := by
  rw [digitsValue_eq_ofDigits, digitsValue_eq_ofDigits, List.map_cons, Nat.ofDigits_reverse_cons]
  simp [Nat.mul_comm, Nat.add_comm]

theorem digitsValue_zero_cons (ds : List Char) : digitsValue ('0' :: ds) = digitsValue ds := by
  rw [digitsValue_cons, show digitValue '0' = 0 from rfl, Nat.zero_mul, Nat.zero_add]

theorem digitsValue_dropWhile (ds : List Char) :
    digitsValue (ds.dropWhile (· == '0')) = digitsValue ds := by
  induction ds with
  | nil => rfl
  | cons d ds ih =>
    by_cases hd : d = '0'
    · rw [hd, List.dropWhile_cons_of_pos (by rfl), ih, digitsValue_zero_cons]
    · rw [List.dropWhile_cons_of_neg (by simpa using hd)]

theorem digits_digitsValue {ds : List Char} (h : ∀ d ∈ ds, d.isDigit = true) :
    Nat.digits 10 (digitsValue ds) = ((ds.dropWhile (· == '0')).map digitValue).reverse := by
  have hdigit : ∀ d ∈ ds.dropWhile (· == '0'), d.isDigit = true := fun d hd =>
    h d ((List.dropWhile_sublist _).subset hd)
  rw [← digitsValue_dropWhile, digitsValue_eq_ofDigits]
  refine Nat.digits_ofDigits 10 (by decide) _ (fun n hn => ?_) fun hne => ?_
  · obtain ⟨d, hd, rfl⟩ := List.mem_map.mp (List.mem_reverse.mp hn)
    exact digitValue_lt (hdigit d hd)
  · -- the last digit of the reversed list is the first one that is not dropped
    have hfirst : ds.dropWhile (· == '0') ≠ [] := by simpa using hne
    rw [List.getLast_reverse, List.head_map, Ne,
      digitValue_eq_zero_iff (hdigit _ (List.head_mem hfirst))]
    simpa using List.head_dropWhile_not (· == '0') hfirst

/-- **A number has one way of being written without zeros in front.** -/
theorem eq_of_digitsValue_eq {a b : List Char} (ha : ∀ d ∈ a, d.isDigit = true)
    (hb : ∀ d ∈ b, d.isDigit = true) (h : digitsValue a = digitsValue b) :
    a.dropWhile (· == '0') = b.dropWhile (· == '0') := by
  have hread : ∀ {ds : List Char}, (∀ d ∈ ds, d.isDigit = true) →
      (Nat.digits 10 (digitsValue ds)).reverse.map (fun n => Char.ofNat ('0'.toNat + n)) =
        ds.dropWhile (· == '0') := fun {ds} hds => by
    rw [digits_digitsValue hds, List.reverse_reverse, List.map_map]
    have hback : ∀ d ∈ ds.dropWhile (· == '0'),
        ((fun n => Char.ofNat ('0'.toNat + n)) ∘ digitValue) d = id d := fun d hd =>
      ofNat_digitValue (hds d ((List.dropWhile_sublist _).subset hd))
    rw [List.map_congr_left hback, List.map_id]
  rw [← hread ha, ← hread hb, h]

/-! ### The words of digits and places -/

theorem idxOf?_digitWord {d : Char} (h : d.isDigit = true) :
    digitWords.idxOf? (digitWord d) = some (digitValue d) := by
  have hall : (decimalDigits.all fun d =>
      digitWords.idxOf? (digitWord d) == some (digitValue d)) = true := by decide
  exact beq_iff_eq.mp (List.all_eq_true.mp hall d (mem_decimalDigits h))

theorem placeChars_add_two (place : Nat) :
    placeChars (place + 2) = (placeWords[place]?.map String.toList).getD [] := rfl

theorem forall_mem_placeChars {test : Char → Bool}
    (h : (placeWords.all fun word => word.toList.all test) = true) {place : Nat} {c : Char}
    (hc : c ∈ placeChars place) : test c = true := by
  match place with
  | 0 => cases hc
  | 1 => cases hc
  | place + 2 =>
    rw [placeChars_add_two] at hc
    cases hword : placeWords[place]? with
    | none => rw [hword] at hc; cases hc
    | some word =>
      rw [hword] at hc
      exact List.all_eq_true.mp (List.all_eq_true.mp h word (List.mem_of_getElem? hword)) c hc

theorem idxOf?_of_mem_placeChars {place : Nat} {c : Char} (h : c ∈ placeChars place) :
    digitWords.idxOf? c = none :=
  beq_iff_eq.mp (@forall_mem_placeChars (fun c => digitWords.idxOf? c == none) (by decide) _ _ h)

/-- Places with words are told apart by them. -/
theorem unitOf_placeChars {place : Nat} (h : place < placeCount) :
    unitOf (placeChars (place + 1)) = 10 ^ place := by
  have hall : ∀ place : Fin placeCount, unitOf (placeChars (place + 1)) = 10 ^ (place : Nat) := by
    decide +kernel
  exact hall ⟨place, h⟩

/-! ### Readings -/

theorem foldr_hear_of_forall {word : List Char} (h : ∀ c ∈ word, digitWords.idxOf? c = none)
    (pending : List Char) (n : Nat) :
    word.foldr hear (pending, n) = (word ++ pending, n) := by
  induction word with
  | nil => rfl
  | cons c word ih =>
    rw [List.forall_mem_cons] at h
    rw [List.foldr_cons, ih h.2, hear, h.1, List.cons_append]

theorem readPlaces_zero_cons (ds : List Char) : readPlaces ('0' :: ds) = readPlaces ds := rfl

theorem readPlaces_cons {d : Char} (h : d ≠ '0') (ds : List Char) :
    readPlaces (d :: ds) = digitWord d :: placeChars (ds.length + 1) ++ readPlaces ds := by
  rw [readPlaces, if_neg h, placeChars]

/-- **What is heard of digits at their places is their number.** -/
theorem foldr_hear_readPlaces {ds : List Char} (h : ∀ d ∈ ds, d.isDigit = true)
    (hlength : ds.length ≤ placeCount) :
    (readPlaces ds).foldr hear ([], 0) = ([], digitsValue ds) := by
  induction ds with
  | nil => rfl
  | cons d ds ih =>
    rw [List.forall_mem_cons] at h
    rw [List.length_cons] at hlength
    have hbehind := ih h.2 (by omega)
    by_cases hd : d = '0'
    · rw [hd, readPlaces_zero_cons, hbehind, digitsValue_zero_cons]
    · rw [readPlaces_cons hd, List.cons_append, List.foldr_cons, List.foldr_append, hbehind,
        foldr_hear_of_forall fun c hc => idxOf?_of_mem_placeChars hc, List.append_nil, hear,
        idxOf?_digitWord h.1]
      rw [unitOf_placeChars (by omega), digitsValue_cons]

theorem readOut_congr {a b : List Char}
    (h : a.dropWhile (· == '0') = b.dropWhile (· == '0')) : readOut a = readOut b := by
  rw [readOut, readOut, h]

theorem readOut_cons {d : Char} (h : d ≠ '0') (ds : List Char) :
    readOut (d :: ds) = readPlaces (d :: ds) := by
  simp [readOut, h]

/-- **An integer is read back off its reading**, as long as all its places have words. -/
theorem heard_readOut {ds : List Char} (h : ∀ d ∈ ds, d.isDigit = true)
    (hlength : (ds.dropWhile (· == '0')).length ≤ placeCount) :
    heard (readOut ds) = digitsValue ds := by
  have hdigit : ∀ d ∈ ds.dropWhile (· == '0'), d.isDigit = true := fun d hd =>
    h d ((List.dropWhile_sublist _).subset hd)
  rw [← digitsValue_dropWhile, readOut]
  cases hds : ds.dropWhile (· == '0') with
  | nil => rfl
  | cons d rest =>
    rw [hds] at hdigit hlength
    exact congrArg Prod.snd (foldr_hear_readPlaces hdigit hlength)

/--
**Integers have the same reading exactly if they are the same number**, and the number is read back
off it.  Zeros in front do not count for the number of places.
-/
theorem readOut_eq_iff {a b : List Char} (ha : ∀ d ∈ a, d.isDigit = true)
    (hb : ∀ d ∈ b, d.isDigit = true) (hla : (a.dropWhile (· == '0')).length ≤ 21)
    (hlb : (b.dropWhile (· == '0')).length ≤ 21) :
    (readOut a = readOut b ↔ digitsValue a = digitsValue b) ∧
      heard (readOut a) = digitsValue a := by
  refine ⟨⟨fun h => ?_, fun h => ?_⟩, heard_readOut ha hla⟩
  · rw [← heard_readOut ha hla, ← heard_readOut hb hlb, h]
  · exact readOut_congr (eq_of_digitsValue_eq ha hb h)

/-- Two spellings of a number with the greatest number of places, and its reading. -/
theorem readOut_eq_iff_zeros :
    let a := "000120000000000000000305".toList
    let b := "120000000000000000305".toList
    (a.dropWhile (· == '0')).length = 21 ∧ (readOut a = readOut b ↔ digitsValue a = digitsValue b) ∧
      heard (readOut a) = 120000000000000000305 := by
  intro a b
  have h := @readOut_eq_iff a b (List.all_eq_true.mp (by decide)) (List.all_eq_true.mp (by decide))
    (by decide) (by decide)
  exact ⟨by decide, h.1, h.2.trans (by decide)⟩

/-! ### Beyond the places with words -/

theorem placeChars_eq_nil {place : Nat} (h : placeCount < place) : placeChars place = [] := by
  match place with
  | 0 => rfl
  | 1 => rfl
  | place + 2 =>
    have hlength : placeWords.length + 1 = placeCount := rfl
    have hnone : placeWords[place]? = none := List.getElem?_eq_none (by omega)
    rw [placeChars_add_two, hnone]
    rfl

theorem readPlaces_replicate_zero (count : Nat) : readPlaces (List.replicate count '0') = [] := by
  induction count with
  | zero => rfl
  | succ count ih => rw [List.replicate_succ, readPlaces_zero_cons, ih]

/-- A digit at a place without a word is read as if it stood at the place of the ones. -/
theorem readOut_unnamed {d : Char} (h : d ≠ '0') {count : Nat} (hcount : placeCount ≤ count) :
    readOut (d :: List.replicate count '0') = readOut [d] := by
  have hplace : placeChars (count + 1) = [] := placeChars_eq_nil (by omega)
  rw [readOut_cons h, readOut_cons h, readPlaces_cons h, readPlaces_cons h, List.length_replicate,
    hplace, readPlaces_replicate_zero]
  rfl

end RecordQuery.Similarity

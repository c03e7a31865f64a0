import RecordQuery.Proofs.Instant.Calendar
import RecordQuery.Proofs.Instant.Fields

/-!
# Written dates are read

The text of a date is a timestamp, with four digits for its year.  A format writes the year without
zeros in front and no offset, so that what it gives is no timestamp, and the forms without an offset
are tried one by one: those that ask for another mark, or for more than is there, are passed over.

* `Instant.readTimestamp?_timeOfDay`: a timestamp field by field.
* `Instant.readFields?_monthAndDay`, `Instant.readFields?_timeOfDay`: a form without an offset field
  by field.
* `Instant.findSome?_readForm?_dateTime`, `Instant.findSome?_readForm?_date`: the form that reads a
  date.
* `Instant.Common`: the instants whose dates come back.
* `Instant.Common.readChars?_textChars`, `Instant.Common.readChars?_dateTime`,
  `Instant.Common.readChars?_date`: what is read from the text of a date and from its formats.
-/

namespace RecordQuery.Instant

open Binary64 (digitChars)
open Text (isBlank trimBlanks)

/-! ### Texts -/

/-- The month and the day of a date behind its year, and what follows. -/
def monthAndDay (c : Civil) (rest : List Char) : List Char :=
  '-' :: (padded 2 c.month ++ '-' :: (padded 2 c.day ++ rest))

/-- A time of day with milliseconds, and what follows. -/
def timeOfDay (c : Civil) (rest : List Char) : List Char :=
  padded 2 c.hour ++ ':' :: (padded 2 c.minute ++ ':' :: (padded 2 c.second ++
    '.' :: (padded 3 (c.nanos / 1000000) ++ rest)))

/-- The bounds of the fields of a civil time that is no leap second. -/
structure InRange (c : Civil) : Prop where
  isDate : Civil.isDate c.year c.month c.day = true
  month_lt : c.month < 100
  day_lt : c.day < 100
  hour_lt : c.hour < 24
  minute_lt : c.minute < 60
  second_lt : c.second < 60
  nanos_lt : c.nanos < 1000000000

theorem bind_of_eq_some {α β : Type} {x : Option α} {a : α} (h : x = some a) (f : α → Option β) :
    (x >>= f) = f a := by
  rw [h]
  rfl

theorem spanChar_cons (c : Char) (rest : List Char) : spanChar c (c :: rest) = some rest :=
  if_pos rfl

theorem spanTimeMark_cons {mark : Char} (h : mark = 'T' ∨ mark = ' ') (rest : List Char) :
    spanTimeMark (mark :: rest) = some rest := by
  rcases h with rfl | rfl <;> rfl

theorem readTimestamp?_timeOfDay {c : Civil} (hc : InRange c) {year : Nat} (hyear : year < 10000)
    {mark : Char} (hmark : mark = 'T' ∨ mark = ' ') {rest : List Char}
    (hrest : rest.head?.all (!·.isDigit) = true) :
    readTimestamp? (padded 4 year ++ monthAndDay c (mark :: timeOfDay c rest)) =
      (spanOffset rest).bind fun found =>
        if found.2 = [] then
          (civil? year c.month c.day c.hour c.minute c.second (c.nanos / 1000000 * 1000000)).map
            fun c => ofCivil c found.1
        else none := by
  have hmillis : c.nanos / 1000000 < 1000 := by have := hc.nanos_lt; omega
  have htwo : ∀ {n : Nat} (rest : List Char), n < 100 →
      spanNumber 2 2 (padded 2 n ++ rest) = some (n, rest) :=
    fun rest hn => spanNumber_padded (by decide) hn rest
  rw [readTimestamp?, monthAndDay, timeOfDay]
  refine (bind_of_eq_some (spanNumber_padded (by decide) hyear _) _).trans ?_
  refine (bind_of_eq_some (spanChar_cons '-' _) _).trans ?_
  refine (bind_of_eq_some (htwo _ hc.month_lt) _).trans ?_
  refine (bind_of_eq_some (spanChar_cons '-' _) _).trans ?_
  refine (bind_of_eq_some (htwo _ hc.day_lt) _).trans ?_
  refine (bind_of_eq_some (spanTimeMark_cons hmark _) _).trans ?_
  refine (bind_of_eq_some (htwo _ (by have := hc.hour_lt; omega)) _).trans ?_
  refine (bind_of_eq_some (spanChar_cons ':' _) _).trans ?_
  refine (bind_of_eq_some (htwo _ (by have := hc.minute_lt; omega)) _).trans ?_
  refine (bind_of_eq_some (spanChar_cons ':' _) _).trans ?_
  refine (bind_of_eq_some (htwo _ (by have := hc.second_lt; omega)) _).trans ?_
  refine (bind_of_eq_some (spanFraction_padded hmillis hrest) _).trans ?_
  dsimp only
  cases spanOffset rest with
  | none => rfl
  | some found =>
    rw [Option.bind_some]
    cases civil? year c.month c.day c.hour c.minute c.second (c.nanos / 1000000 * 1000000) <;> rfl

theorem readTimestamp?_of_short {year : Nat} (hyear : year < 1000) (c : Civil) (rest : List Char) :
    readTimestamp? (digitChars year ++ monthAndDay c rest) = none := by
  have hlength : (digitChars year).length ≤ 3 := Nat.toDigits_length 10 year 3 (by decide) hyear
  rw [readTimestamp?, spanNumber_eq_none (fun _ => Binary64.isDigit_of_mem_digitChars)
    (by omega) rfl]
  rfl

theorem readTimestamp?_monthAndDay {c : Civil} (hc : InRange c) {year : Nat}
    (hyear : year < 10000) :
    readTimestamp? (padded 4 year ++ monthAndDay c []) = none := by
  rw [readTimestamp?, monthAndDay]
  refine (bind_of_eq_some (spanNumber_padded (by decide) hyear _) _).trans ?_
  refine (bind_of_eq_some (spanChar_cons '-' _) _).trans ?_
  refine (bind_of_eq_some (spanNumber_padded (by decide) hc.month_lt _) _).trans ?_
  refine (bind_of_eq_some (spanChar_cons '-' _) _).trans ?_
  exact bind_of_eq_some (spanNumber_padded (by decide) hc.day_lt _) _

/-! ### Forms without an offset -/

theorem readFields?_cons {field : Field} {f found : Fields} {cs rest : List Char}
    (h : field.span f cs = some (found, rest)) (form : List Field) :
    readFields? (field :: form) f cs = readFields? form found rest := by
  rw [readFields?, h]

theorem readFields?_mark (c : Char) (form : List Field) (f : Fields) (rest : List Char) :
    readFields? (.mark c :: form) f (c :: rest) = readFields? form f rest :=
  readFields?_cons (by rw [Field.span, spanChar_cons]; rfl) form

theorem readFields?_monthAndDay {c : Civil} (hc : InRange c) {year : Nat} (hyear : year ≤ 9999)
    (form : List Field) (rest : List Char) :
    readFields? (dateForm '-' ++ form) {} (digitChars year ++ monthAndDay c rest) =
      readFields? form { year, month := c.month, day := c.day } rest := by
  rw [monthAndDay]
  refine (readFields?_cons (by rw [Field.span, spanYear_digitChars hyear rfl]; rfl) _).trans ?_
  refine (readFields?_mark '-' _ _ _).trans ?_
  refine (readFields?_cons (by rw [Field.span, spanShort_padded hc.month_lt]; rfl) _).trans ?_
  refine (readFields?_mark '-' _ _ _).trans ?_
  exact readFields?_cons (by rw [Field.span, spanShort_padded hc.day_lt]; rfl) _

theorem readFields?_timeOfDay {c : Civil} (hc : InRange c) (f : Fields) :
    readFields? [.hour, .mark ':', .minute, .mark ':', .second, .fraction] f (timeOfDay c []) =
      some { f with hour := c.hour, minute := c.minute, second := c.second,
                    nanos := c.nanos / 1000000 * 1000000 } := by
  have hmillis : c.nanos / 1000000 < 1000 := by have := hc.nanos_lt; omega
  have hhour := spanShort_padded (n := c.hour) (by have := hc.hour_lt; omega)
  have hminute := spanShort_padded (n := c.minute) (by have := hc.minute_lt; omega)
  have hsecond := spanShort_padded (n := c.second) (by have := hc.second_lt; omega)
  have hfraction (f : Fields) :
      Field.fraction.span f ('.' :: (padded 3 (c.nanos / 1000000) ++ [])) =
      some ({ f with nanos := c.nanos / 1000000 * 1000000 }, []) := by
    rw [Field.span, spanFraction_padded hmillis rfl]
    rfl
  rw [timeOfDay]
  refine (readFields?_cons (by rw [Field.span, hhour]; rfl) _).trans ?_
  refine (readFields?_mark ':' _ _ _).trans ?_
  refine (readFields?_cons (by rw [Field.span, hminute]; rfl) _).trans ?_
  refine (readFields?_mark ':' _ _ _).trans ?_
  refine (readFields?_cons (by rw [Field.span, hsecond]; rfl) _).trans ?_
  exact readFields?_cons (hfraction _) _

theorem readForm?_eq_none {form : List Field} {cs : List Char}
    (h : readFields? form {} cs = none) : readForm? form cs = none := by
  rw [readForm?, h]
  rfl

theorem readForm?_eq_some {form : List Field} {cs : List Char} {f : Fields} {c : Civil}
    (h : readFields? form {} cs = some f)
    (hcivil : civil? f.year f.month f.day f.hour f.minute f.second f.nanos = some c) :
    readForm? form cs = some (ofCivil c 0) := by
  rw [readForm?, h]
  exact bind_of_eq_some hcivil _

/-- A date and a time of day with a blank between them are read by the second form. -/
theorem findSome?_readForm?_dateTime {c : Civil} (hc : InRange c) {year : Nat} (hyear : year ≤ 9999)
    {found : Civil} (hfound : civil? year c.month c.day c.hour c.minute c.second
      (c.nanos / 1000000 * 1000000) = some found) :
    (localForms.findSome? fun form =>
        readForm? form (digitChars year ++ monthAndDay c (' ' :: timeOfDay c []))) =
      some (ofCivil found 0) := by
  have hmarked := readForm?_eq_none (readFields?_monthAndDay hc hyear
    [.mark 'T', .hour, .mark ':', .minute, .mark ':', .second, .fraction] (' ' :: timeOfDay c []))
  have hblank : readFields? (dateForm '-' ++
      [.blanks, .hour, .mark ':', .minute, .mark ':', .second, .fraction]) {}
        (digitChars year ++ monthAndDay c (' ' :: timeOfDay c [])) =
      some ⟨year, c.month, c.day, c.hour, c.minute, c.second, c.nanos / 1000000 * 1000000⟩ := by
    refine (readFields?_monthAndDay hc hyear _ _).trans ?_
    refine (readFields?_cons
      (by rw [Field.span, dropBlanks, List.dropWhile_cons_of_pos (by decide)])
      _).trans ?_
    rw [← dropBlanks, timeOfDay, dropBlanks_padded, ← timeOfDay]
    exact readFields?_timeOfDay hc _
  rw [localForms, List.findSome?_cons, hmarked, List.findSome?_cons,
    readForm?_eq_some hblank hfound]

/-- A date alone is read by the fourth form. -/
theorem findSome?_readForm?_date {c : Civil} (hc : InRange c) {year : Nat} (hyear : year ≤ 9999)
    {found : Civil} (hfound : civil? year c.month c.day 0 0 0 0 = some found) :
    (localForms.findSome? fun form => readForm? form (digitChars year ++ monthAndDay c [])) =
      some (ofCivil found 0) := by
  have hmarked := readForm?_eq_none (readFields?_monthAndDay hc hyear
    [.mark 'T', .hour, .mark ':', .minute, .mark ':', .second, .fraction] [])
  have hblank := readForm?_eq_none (readFields?_monthAndDay hc hyear
    [.blanks, .hour, .mark ':', .minute, .mark ':', .second, .fraction] [])
  have hshort := readForm?_eq_none (readFields?_monthAndDay hc hyear
    [.mark 'T', .hour, .mark ':', .minute] [])
  have hdate := readFields?_monthAndDay hc hyear [] []
  rw [List.append_nil] at hdate
  rw [localForms, List.findSome?_cons, hmarked, List.findSome?_cons, hblank, List.findSome?_cons,
    hshort, List.findSome?_cons, readForm?_eq_some hdate hfound]

/-! ### Instants -/

theorem trimBlanks_digits_append {ds rest front last : List Char}
    (hds : ∀ c ∈ ds, c.isDigit = true) (hne : ds ≠ []) (hlast : ∀ c ∈ last, isBlank c = false)
    (hlastne : last ≠ []) (h : ds ++ rest = front ++ last) :
    trimBlanks (ds ++ rest) = ds ++ rest := by
  refine Text.trimBlanks_eq_self ?_ ?_
  · obtain ⟨d, ds, rfl⟩ := List.exists_cons_of_ne_nil hne
    rintro _ ⟨⟩
    exact Similarity.Token.not_isBlank_of_isDigit (hds d List.mem_cons_self)
  · rw [h, List.getLast?_append_of_ne_nil _ hlastne]
    exact fun c hc => hlast c (List.mem_of_mem_getLast? hc)

theorem isBlank_of_mem_padded {width n : Nat} : ∀ c ∈ padded width n, isBlank c = false :=
  fun _ h => Similarity.Token.not_isBlank_of_isDigit (isDigit_of_mem_padded h)

/-- The instant without what is behind its milliseconds. -/
def wholeMillis (t : Instant) : Instant := ⟨t.seconds, t.nanos / 1000000 * 1000000⟩

/-- Midnight in UTC at the beginning of the day of an instant. -/
def midnight (t : Instant) : Instant := ⟨t.days * 86400, 0⟩

/-- An instant of a year of at most four digits, and not in a leap second. -/
structure Common (t : Instant) : Prop where
  year_nonneg : 0 ≤ t.toCivil.year
  year_le : t.toCivil.year ≤ 9999
  nanos_lt : t.nanos < 1000000000

variable {t : Instant}

theorem Common.inRange (ht : Common t) : InRange t.toCivil := by
  have hdate : Civil.isDate t.toCivil.year t.toCivil.month t.toCivil.day = true :=
    Civil.isDate_ofDayNumber (le_trans (by decide) ht.year_nonneg) (ht.year_le.trans (by decide))
  have hbounds := hdate
  have hlength := Civil.daysInMonth_le t.toCivil.year t.toCivil.month
  simp only [Civil.isDate, Bool.and_eq_true, decide_eq_true_eq] at hbounds
  refine ⟨hdate, by omega, by omega, ?_, ?_, ?_, ht.nanos_lt⟩
  · show (t.seconds % 86400).toNat / 3600 < 24
    omega
  · show (t.seconds % 86400).toNat / 60 % 60 < 60
    omega
  · show (t.seconds % 86400).toNat % 60 < 60
    omega

theorem InRange.civil?_eq {c : Civil} (hc : InRange c) (nanos : Nat) :
    civil? c.year c.month c.day c.hour c.minute c.second nanos = some { c with nanos } := by
  have := hc.hour_lt
  have := hc.minute_lt
  have := hc.second_lt
  rw [civil?, hc.isDate, if_pos (by simp; omega), if_neg (by omega)]

theorem ofCivil_wholeMillis (t : Instant) :
    ofCivil { t.toCivil with nanos := t.toCivil.nanos / 1000000 * 1000000 } 0 = t.wholeMillis :=
  ofCivil_toCivil t.wholeMillis

theorem ofCivil_midnight (t : Instant) :
    ofCivil ⟨t.toCivil.year, t.toCivil.month, t.toCivil.day, 0, 0, 0, 0⟩ 0 = t.midnight := by
  have hdays : t.midnight.days = t.days := Int.mul_ediv_cancel _ (by decide)
  have hseconds : t.midnight.seconds % 86400 = 0 := Int.mul_emod_left ..
  rw [← ofCivil_toCivil t.midnight]
  simp only [toCivil, hdays, hseconds]
  rfl

theorem Common.textChars_eq (ht : Common t) : t.textChars =
    padded 4 t.toCivil.year.toNat ++ monthAndDay t.toCivil ('T' :: timeOfDay t.toCivil ['Z']) := by
  have hyear : yearChars t.toCivil.year = padded 4 t.toCivil.year.toNat :=
    if_pos ⟨ht.year_nonneg, ht.year_le⟩
  have hnanos : ¬ 1000000000 ≤ t.toCivil.nanos := Nat.not_le.mpr ht.nanos_lt
  rw [textChars, if_neg hnanos]
  simp only [hyear, monthAndDay, timeOfDay, List.append_assoc, List.cons_append]

theorem Common.integerChars_year (ht : Common t) :
    integerChars t.toCivil.year = digitChars t.toCivil.year.toNat := by
  have := ht.year_nonneg
  rw [integerChars, if_neg (by omega), List.nil_append,
    show t.toCivil.year.natAbs = t.toCivil.year.toNat by omega]

theorem Common.formatChars_dateTime (ht : Common t) :
    formatChars t [] "YYYY-MM-DD HH:mm:ss.SSS".toList = digitChars t.toCivil.year.toNat ++
      monthAndDay t.toCivil (' ' :: timeOfDay t.toCivil []) := by
  have hwords : formatChars t [] "YYYY-MM-DD HH:mm:ss.SSS".toList =
      integerChars t.toCivil.year ++ '-' :: (padded 2 t.toCivil.month ++ '-' ::
        (padded 2 t.toCivil.day ++ ' ' :: (padded 2 t.toCivil.hour ++ ':' ::
          (padded 2 t.toCivil.minute ++ ':' :: (padded 2 t.toCivil.second ++ '.' ::
            padded 3 (t.nanos / 1000000)))))) := rfl
  rw [hwords, ht.integerChars_year, monthAndDay, timeOfDay, List.append_nil]
  rfl

theorem Common.formatChars_date (ht : Common t) :
    formatChars t [] "YYYY-MM-DD".toList =
      digitChars t.toCivil.year.toNat ++ monthAndDay t.toCivil [] := by
  have hwords : formatChars t [] "YYYY-MM-DD".toList =
      integerChars t.toCivil.year ++ '-' :: (padded 2 t.toCivil.month ++ '-' ::
        padded 2 t.toCivil.day) := rfl
  rw [hwords, ht.integerChars_year, monthAndDay, List.append_nil]

/-! ### Reading what is written -/

theorem readChars?_of_timestamp {cs : List Char} {found : Instant} (htrim : trimBlanks cs = cs)
    (h : readTimestamp? cs = some found) : readChars? cs = some found := by
  rw [readChars?, htrim, h]

theorem readTimestamp?_digitChars_eq_none {year : Nat} {c : Civil} {rest : List Char}
    (h : readTimestamp? (padded 4 year ++ monthAndDay c rest) = none) :
    readTimestamp? (digitChars year ++ monthAndDay c rest) = none := by
  by_cases hshort : year < 1000
  · exact readTimestamp?_of_short hshort c rest
  · have hlong : 10 ^ (4 - 1) ≤ year := Nat.not_lt.mp hshort
    rwa [← padded_eq_digitChars hlong]

/-- A date with its year as a format writes it, and a field at its end, is left to the forms without
an offset. -/
theorem readChars?_of_form {year width n : Nat} {c : Civil} {rest front : List Char}
    {found : Instant}
    (hend : digitChars year ++ monthAndDay c rest = front ++ padded width n)
    (hnone : readTimestamp? (padded 4 year ++ monthAndDay c rest) = none)
    (h : (localForms.findSome? fun form => readForm? form (digitChars year ++ monthAndDay c rest)) =
      some found) :
    readChars? (digitChars year ++ monthAndDay c rest) = some found := by
  have htrim := trimBlanks_digits_append (fun _ => Binary64.isDigit_of_mem_digitChars)
    Nat.toDigits_ne_nil isBlank_of_mem_padded padded_ne_nil hend
  rw [readChars?, htrim, readTimestamp?_digitChars_eq_none hnone]
  exact h

theorem Common.readChars?_textChars (ht : Common t) :
    readChars? t.textChars = some t.wholeMillis := by
  have hyear := ht.year_le
  have hnonneg := ht.year_nonneg
  have hoffset : spanOffset ['Z'] = some (0, []) := rfl
  have hlast : ∀ c ∈ ['Z'], isBlank c = false := List.forall_mem_singleton.mpr (by decide)
  have hend : padded 4 t.toCivil.year.toNat ++
      monthAndDay t.toCivil ('T' :: timeOfDay t.toCivil ['Z']) =
        padded 4 t.toCivil.year.toNat ++ monthAndDay t.toCivil ('T' :: timeOfDay t.toCivil []) ++
          ['Z'] := by simp [monthAndDay, timeOfDay]
  rw [ht.textChars_eq]
  refine readChars?_of_timestamp (trimBlanks_digits_append (fun _ => isDigit_of_mem_padded)
    padded_ne_nil hlast (List.cons_ne_nil _ _) hend) ?_
  rw [readTimestamp?_timeOfDay ht.inRange (by omega) (.inl rfl) rfl, hoffset, Option.bind_some,
    if_pos rfl, Int.toNat_of_nonneg hnonneg, ht.inRange.civil?_eq]
  exact congrArg some (ofCivil_wholeMillis t)

theorem Common.readChars?_dateTime (ht : Common t) :
    readChars? (formatChars t [] "YYYY-MM-DD HH:mm:ss.SSS".toList) = some t.wholeMillis := by
  have hyear := ht.year_le
  have hnonneg := ht.year_nonneg
  have hend : digitChars t.toCivil.year.toNat ++
      monthAndDay t.toCivil (' ' :: timeOfDay t.toCivil []) =
        digitChars t.toCivil.year.toNat ++ monthAndDay t.toCivil
          (' ' :: (padded 2 t.toCivil.hour ++ ':' :: (padded 2 t.toCivil.minute ++ ':' ::
            (padded 2 t.toCivil.second ++ ['.'])))) ++ padded 3 (t.toCivil.nanos / 1000000) := by
    simp [monthAndDay, timeOfDay]
  rw [ht.formatChars_dateTime]
  refine readChars?_of_form hend ?_ ?_
  · rw [readTimestamp?_timeOfDay ht.inRange (by omega) (.inr rfl) rfl]
    rfl
  · rw [findSome?_readForm?_dateTime ht.inRange (by omega)
      (by rw [Int.toNat_of_nonneg hnonneg]; exact ht.inRange.civil?_eq _), ofCivil_wholeMillis]

theorem Common.readChars?_date (ht : Common t) :
    readChars? (formatChars t [] "YYYY-MM-DD".toList) = some t.midnight := by
  have hyear := ht.year_le
  have hnonneg := ht.year_nonneg
  have hcivil : civil? t.toCivil.year.toNat t.toCivil.month t.toCivil.day 0 0 0 0 =
      some ⟨t.toCivil.year, t.toCivil.month, t.toCivil.day, 0, 0, 0, 0⟩ := by
    rw [Int.toNat_of_nonneg hnonneg, civil?, ht.inRange.isDate]
    rfl
  have hend : digitChars t.toCivil.year.toNat ++ monthAndDay t.toCivil [] =
      digitChars t.toCivil.year.toNat ++ '-' :: (padded 2 t.toCivil.month ++ ['-']) ++
        padded 2 t.toCivil.day := by simp [monthAndDay]
  rw [ht.formatChars_date]
  refine readChars?_of_form hend (readTimestamp?_monthAndDay ht.inRange (by omega)) ?_
  rw [findSome?_readForm?_date ht.inRange (by omega) hcivil, ofCivil_midnight]

end RecordQuery.Instant

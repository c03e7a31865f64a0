import RecordQuery.Proofs.Binary64.Rational
import RecordQuery.Proofs.Transform.Arrays

/-!
# Slices and splices

An index is a double.  Its integer part is what counts: from the front, or from the end if it is
negative, and never out of the list.  The sign is asked for before the fraction is cut off, however,
so that an index between minus one and zero, of which nothing is left, counts as one from the end
and means the end itself.

* `Items.meant`: the place that an index stands for by its integer part.
* `Items.Vanishing`: the indices between minus one and zero.
* `Items.place_of_vanishing`, `Items.place_eq_meant`: the place of an index, for these and for all
  others.
* `Items.place_trunc_iff`: when an index may be cut off beforehand.
* `Items.projected?_slice`, `Items.projected?_splice`: the operators by places.
* `Items.slice_splice`: what they make of an array.
-/

namespace RecordQuery

open Binary64
  (ofNat ofInt parts rational? towardsZero toCount trunc greatest wholePart greatestCount)

namespace Items

/-- The place that an index stands for: its integer part, counted from the end if that is negative,
and moved into the range of the list.  What is not finite stands for an end of the list, NaN for its
front. -/
def meant (index : Float) (length : Nat) : Nat :=
  match rational? index with
  | some q =>
    let whole := towardsZero q
    (min (length : ℤ) (if whole < 0 then length + whole else whole)).toNat
  | none => if 0.0 < index then length else 0

/-- The number of items to take out, at most as many as there are. -/
def removed (count : Float) (present : Nat) : Nat :=
  match rational? count with
  | some q => min (towardsZero q).toNat present
  | none => if 0.0 < count then present else 0

/-- Between minus one and zero: a negative index without integer part. -/
def Vanishing (index : Float) : Prop := ∃ q, rational? index = some q ∧ -1 < q ∧ q < 0

/-! ### Places -/

variable {length : Nat}

theorem toCount_greatest_zero (x : Float) :
    toCount (greatest x 0.0) = if 0.0 < x then toCount x else 0 := by
  rw [greatest, if_neg (by decide), apply_ite toCount]
  rfl

theorem toCount_greatest_ofInt {n : Int} (hn : n.natAbs.log2 < 53) :
    toCount (greatest (ofInt n) 0.0) = n.toNat := by
  have hrational := Binary64.rational?_ofInt hn
  have hsmall := Binary64.log2_lt_iff.mp hn
  have hcount : toCount (ofInt n) = n.toNat := by
    rw [Binary64.toCount_of_rational? hrational, ← Int.floor_toNat, Int.floor_intCast,
      greatestCount]
    omega
  rw [toCount_greatest_zero, hcount]
  split
  · rfl
  · next hpos =>
    have hn : ¬ 0 < n := fun hlt => hpos <| (Binary64.zero_lt_iff _).mpr <| .inr <| by
      rw [Binary64.parts_ofInt (Int.ne_of_gt hlt) hn, decide_eq_false (Int.not_lt.mpr hlt.le)]
      exact ⟨_, _, Binary64.mantissa_pos (by omega), rfl⟩
    omega

theorem place_of_nonneg {index : Float} (hnan : index.isNaN = false) (h : ¬ index < 0.0) :
    place index length = min (toCount index) length := by
  rw [place, hnan, if_neg Bool.false_ne_true, if_neg h]

theorem place_of_neg {index : Float} (h : index < 0.0) :
    place index length = toCount (greatest (ofNat length + trunc index) 0.0) := by
  have hnan : index.isNaN = false := by
    rw [← Bool.not_eq_true, Binary64.isNaN_iff]
    intro hparts
    rcases (Binary64.lt_zero_iff _).mp h with h | ⟨_, _, _, h⟩ <;> rw [hparts] at h <;> cases h
  rw [place, hnan, if_neg Bool.false_ne_true, if_pos h]

/-- A length and the integer part of a negative index are added exactly if doubles count them. -/
theorem ofNat_add_trunc {index : Float} {m : Nat} {e : Int} (hlength : length.log2 < 53)
    (hm : 0 < m) (hparts : parts index = .finite true m e) (hw : (wholePart m e).log2 < 53) :
    ofNat length + trunc index = ofInt ((length : ℤ) - wholePart m e) := by
  by_cases hzero : wholePart m e = 0
  · have he : ¬ 0 ≤ e := fun he => by
      rw [wholePart, if_pos he, Nat.shiftLeft_eq] at hzero
      exact (Nat.mul_pos hm (Nat.two_pow_pos _)).ne' hzero
    have htrunc : trunc index = -ofNat 0 := by
      rw [trunc, hparts]
      dsimp only
      rw [if_neg he, hzero]
      rfl
    have hsum : ofInt (length : ℤ) + -ofNat 0 = ofInt (length : ℤ) :=
      Binary64.ofInt_add_neg_zero hlength
    rw [htrunc, hzero, Int.natCast_zero, Int.sub_zero]
    exact hsum
  · have hl := Binary64.log2_lt_iff.mp hlength
    have hwl := Binary64.log2_lt_iff.mp hw
    have htrunc : trunc index = ofInt (-(wholePart m e : ℤ)) :=
      Binary64.trunc_eq_ofInt hparts hzero hw
    have hsum : ofInt (length : ℤ) + ofInt (-(wholePart m e : ℤ)) =
        ofInt ((length : ℤ) + -(wholePart m e : ℤ)) :=
      Binary64.ofInt_add_ofInt hlength (by rwa [Int.natAbs_neg, Int.natAbs_natCast])
        (Binary64.log2_lt_iff.mpr (by omega))
    rw [htrunc, Int.sub_eq_add_neg]
    exact hsum

theorem place_of_finite {index : Float} {m : Nat} {e : Int} (hlength : length.log2 < 53)
    (hm : 0 < m) (hparts : parts index = .finite true m e) :
    place index length = ((length : ℤ) - wholePart m e).toNat := by
  have hl := Binary64.log2_lt_iff.mp hlength
  rw [place_of_neg ((Binary64.lt_zero_iff _).mpr (.inr ⟨m, e, hm, hparts⟩))]
  by_cases hw : (wholePart m e).log2 < 53
  · have hwl := Binary64.log2_lt_iff.mp hw
    rw [ofNat_add_trunc hlength hm hparts hw]
    exact toCount_greatest_ofInt (Binary64.log2_lt_iff.mpr (by omega))
  · -- the index is an integer that no length comes up to
    have he : 0 ≤ e := by
      by_contra he
      exact hw (Binary64.log2_wholePart_lt hparts (by omega))
    have htrunc : trunc index = index := by
      rw [trunc, hparts]
      exact if_pos he
    rw [Binary64.log2_lt_iff] at hw
    have hlt : length < m <<< e.toNat := by
      rw [wholePart, if_pos he] at hw
      omega
    rw [htrunc, toCount_greatest_zero, if_neg (Binary64.not_pos_add hlength hparts he hlt)]
    omega

theorem place_of_infinite {index : Float} (hlength : length.log2 < 53)
    (hparts : parts index = .infinite true) : place index length = 0 := by
  have htrunc : trunc index = index := by rw [trunc, hparts]
  rw [place_of_neg ((Binary64.lt_zero_iff _).mpr (.inl hparts)), htrunc, toCount_greatest_zero,
    if_neg (Binary64.not_pos_add_infinite hlength hparts)]

theorem place_of_isNaN {index : Float} (h : parts index = .nan) : place index length = 0 := by
  rw [place, if_pos ((Binary64.isNaN_iff _).mpr h)]

theorem parts_of_neg {index : Float} {q : ℚ} (h : rational? index = some q) (hq : q < 0) :
    ∃ m e, 0 < m ∧ parts index = .finite true m e ∧ q = -((m : ℚ) * 2 ^ e) := by
  rcases (Binary64.lt_zero_iff _).mp ((Binary64.lt_zero_iff_of_rational? h).mpr hq) with
    hparts | ⟨m, e, hm, hparts⟩
  · rw [rational?, hparts] at h
    cases h
  · rw [Binary64.rational?_of_parts hparts] at h
    exact ⟨m, e, hm, hparts, (Option.some.inj h).symm⟩

/-- **An index between minus one and zero means the end.** -/
theorem place_of_vanishing {index : Float} (hlength : length.log2 < 53) (h : Vanishing index) :
    place index length = length := by
  obtain ⟨q, hrational, hlow, hneg⟩ := h
  obtain ⟨m, e, hm, hparts, rfl⟩ := parts_of_neg hrational hneg
  have hw : wholePart m e = 0 := by
    rw [Binary64.wholePart_eq_floor, Nat.floor_eq_zero]
    linarith
  rw [place_of_finite hlength hm hparts, hw]
  rfl

theorem meant_le (index : Float) (length : Nat) : meant index length ≤ length := by
  rw [meant]
  split
  · dsimp only
    omega
  · split <;> omega

/-- **Every other index means the place of its integer part.** -/
theorem place_eq_meant {index : Float} (hlength : length.log2 < 53) (h : ¬ Vanishing index) :
    place index length = meant index length := by
  have hl := Binary64.log2_lt_iff.mp hlength
  cases hrational : rational? index with
  | none =>
    simp only [meant, hrational, Binary64.zero_lt_iff_of_rational?_eq_none hrational]
    rcases Binary64.parts_of_rational?_eq_none hrational with hparts | ⟨negative, hparts⟩
    · rw [place_of_isNaN hparts, if_neg (by rw [hparts]; rintro ⟨⟩)]
    · cases negative
      · have hnan : index.isNaN = false := by
          rw [← Bool.not_eq_true, Binary64.isNaN_iff, hparts]
          rintro ⟨⟩
        have hpos : ¬ index < 0.0 := by
          rw [Binary64.lt_zero_iff, hparts]
          rintro (h | ⟨_, _, _, h⟩) <;> cases h
        have hcount : toCount index = greatestCount := Binary64.toCount_of_infinite hparts
        rw [place_of_nonneg hnan hpos, hcount, if_pos hparts, greatestCount]
        omega
      · rw [place_of_infinite hlength hparts, if_neg (by rw [hparts]; rintro ⟨⟩)]
  | some q =>
    simp only [meant, hrational]
    rcases lt_or_ge q 0 with hneg | hpos
    · obtain ⟨m, e, hm, hparts, rfl⟩ := parts_of_neg hrational hneg
      have hsize := Binary64.size_nonneg m e
      have hfloor := Int.natCast_floor_eq_floor hsize
      rw [← Binary64.wholePart_eq_floor] at hfloor
      have hw : wholePart m e ≠ 0 := by
        rw [Binary64.wholePart_eq_floor, Ne, Nat.floor_eq_zero]
        exact fun hlt => h ⟨_, hrational, by linarith, hneg⟩
      rw [place_of_finite hlength hm hparts, Binary64.towardsZero_neg hsize, ← hfloor,
        if_pos (by omega)]
      omega
    · have hnan : index.isNaN = false := by
        rw [← Bool.not_eq_true, Binary64.isNaN_iff]
        intro hparts
        rw [rational?, hparts] at hrational
        cases hrational
      have hnonneg : ¬ index < 0.0 := by
        rw [Binary64.lt_zero_iff_of_rational? hrational]
        exact not_lt.mpr hpos
      rw [place_of_nonneg hnan hnonneg, Binary64.toCount_of_rational? hrational,
        Binary64.towardsZero_of_nonneg hpos, ← Int.natCast_floor_eq_floor hpos, greatestCount,
        if_neg (by omega)]
      omega

theorem place_le (hlength : length.log2 < 53) (index : Float) : place index length ≤ length := by
  by_cases h : Vanishing index
  · exact (place_of_vanishing hlength h).le
  · rw [place_eq_meant hlength h]
    exact meant_le ..

/-! ### Cutting off beforehand -/

theorem not_vanishing_trunc (index : Float) : ¬ Vanishing (trunc index) := by
  rintro ⟨q, hq, hlow, hneg⟩
  rw [Binary64.rational?_trunc, Option.map_eq_some_iff] at hq
  obtain ⟨p, -, rfl⟩ := hq
  have hlow' : -1 < towardsZero p := by exact_mod_cast hlow
  have hneg' : towardsZero p < 0 := by exact_mod_cast hneg
  omega

theorem meant_trunc (index : Float) (length : Nat) :
    meant (trunc index) length = meant index length := by
  cases hrational : rational? index with
  | none => rw [Binary64.trunc_of_rational?_eq_none hrational]
  | some q =>
    have htrunc := Binary64.rational?_trunc index
    rw [hrational, Option.map_some] at htrunc
    simp only [meant, htrunc, hrational, Binary64.towardsZero_intCast]

/-- By its integer part an index between minus one and zero stands for the front. -/
theorem meant_of_vanishing {index : Float} (h : Vanishing index) : meant index length = 0 := by
  obtain ⟨q, hrational, hlow, hneg⟩ := h
  have hceil : towardsZero q = 0 := by
    rw [towardsZero, if_pos hneg, Int.ceil_eq_zero_iff]
    exact ⟨hlow, hneg.le⟩
  simp only [meant, hrational, hceil]
  omega

/-- **Cutting off an index beforehand** makes no difference, unless it lies between minus one and
zero. -/
theorem place_trunc_iff (hlength : length.log2 < 53) (index : Float) :
    place (trunc index) length = place index length ↔ ¬ Vanishing index ∨ length = 0 := by
  rw [place_eq_meant hlength (not_vanishing_trunc index), meant_trunc]
  by_cases h : Vanishing index
  · rw [place_of_vanishing hlength h, meant_of_vanishing h]
    exact ⟨fun h0 => .inr h0.symm, fun h' => (h'.resolve_left (not_not.mpr h)).symm⟩
  · exact iff_of_true (place_eq_meant hlength h).symm (.inl h)

theorem min_toCount (count : Float) {present : Nat} (h : present ≤ greatestCount) :
    min (toCount count) present = removed count present := by
  cases hrational : rational? count with
  | none =>
    simp only [removed, hrational, Binary64.zero_lt_iff_of_rational?_eq_none hrational]
    rcases Binary64.parts_of_rational?_eq_none hrational with hparts | ⟨negative, hparts⟩
    · rw [toCount, Binary64.clamped, hparts, if_neg (by rintro ⟨⟩)]
      exact Nat.zero_min _
    · rw [Binary64.toCount_of_infinite hparts, hparts]
      cases negative
      · rw [if_neg Bool.false_ne_true, if_pos rfl]
        exact Nat.min_eq_right h
      · rw [if_pos rfl, if_neg (by rintro ⟨⟩)]
        exact Nat.zero_min _
  | some q =>
    simp only [removed, hrational]
    rw [Binary64.toCount_of_rational? hrational, Binary64.toNat_towardsZero]
    omega

theorem removed_le (count : Float) (present : Nat) : removed count present ≤ present := by
  rw [removed]
  split
  · exact Nat.min_le_right ..
  · split <;> omega

theorem removed_trunc (count : Float) (present : Nat) :
    removed (trunc count) present = removed count present := by
  cases hrational : rational? count with
  | none => rw [Binary64.trunc_of_rational?_eq_none hrational]
  | some q =>
    have htrunc := Binary64.rational?_trunc count
    rw [hrational, Option.map_some] at htrunc
    simp only [removed, htrunc, hrational, Binary64.towardsZero_intCast]

/-! ### The operators -/

/-- The place of an index among the options of a transform. -/
def placeAt (options : Value) (key : String) (absent length : Nat) : Nat :=
  (options.numberOption? key).elim absent fun index => place index length

/-- The number of items that a splice takes out from a place on. -/
def removedAt (options : Value) (start length : Nat) : Nat :=
  (options.numberOption? "deleteCount").elim 0 fun count => removed count (length - start)

theorem place_zero (length : Nat) : place 0.0 length = 0 := by
  rw [place_of_nonneg (by decide) (by decide), show toCount 0.0 = 0 by decide, Nat.zero_min]

theorem place_getD_eq (options : Value) (key : String) (length : Nat) :
    place ((options.numberOption? key).getD 0.0) length = placeAt options key 0 length := by
  rw [placeAt]
  cases options.numberOption? key with
  | none => exact place_zero length
  | some index => rfl

theorem placeAt_le (hlength : length.log2 < 53) (options : Value) (key : String) {absent : Nat}
    (h : absent ≤ length) : placeAt options key absent length ≤ length := by
  rw [placeAt]
  cases options.numberOption? key with
  | none => exact h
  | some index => exact place_le hlength index

theorem length_slice {items : List Value} {start last : Nat} (h : last ≤ items.length) :
    (slice items start last).length = last - start := by
  rw [slice, List.length_take, List.length_drop]
  omega

theorem drop_eq_drop_min (items : List Value) (start count : Nat) :
    items.drop (start + count) = items.drop (start + min count (items.length - start)) := by
  by_cases h : start + count ≤ items.length
  · rw [Nat.min_eq_left (by omega)]
  · rw [List.drop_eq_nil_of_le (by omega), List.drop_eq_nil_of_le (by omega)]

theorem splice_eq {items : List Value} (hlength : items.length.log2 < 53) (options : Value)
    (start : Nat) (inserted : List Value) :
    splice items start (toCount ((options.numberOption? "deleteCount").getD 0.0)) inserted =
      items.take start ++ inserted ++
        items.drop (start + removedAt options start items.length) := by
  have hl := Binary64.log2_lt_iff.mp hlength
  rw [splice, drop_eq_drop_min, removedAt]
  cases options.numberOption? "deleteCount" with
  | none => rw [Option.getD_none, show toCount 0.0 = 0 by decide, Nat.zero_min]; rfl
  | some count =>
    rw [Option.getD_some, min_toCount count (by rw [greatestCount]; omega)]
    rfl

variable (functions : Functions)

theorem projected?_slice (items : List Value) (options : Value) :
    projected? functions items "$slice" options =
      some (.array (slice items (placeAt options "start" 0 items.length)
        (placeAt options "end" items.length items.length))) := by
  refine projected?_ofItems rfl rfl rfl ?_
  rw [place_getD_eq]
  dsimp only [placeAt]
  cases options.numberOption? "end" <;> rfl

theorem projected?_splice (items : List Value) {options : Value} {inserted : List Value}
    (h : options.arrayOption? "items" = some inserted) :
    projected? functions items "$splice" options =
      some (.array (splice items (placeAt options "start" 0 items.length)
        (toCount ((options.numberOption? "deleteCount").getD 0.0)) inserted)) := by
  refine projected?_ofItems rfl rfl rfl ?_
  rw [place_getD_eq, h]
  rfl

/-- **Slices and splices by their indices**, for all arrays whose length a double counts exactly.
Every index means a place in the list or at its end: that of its integer part, counted from the end
if it is negative, but the end itself for an index between minus one and zero.  Only there it
matters whether the index is cut off beforehand.  A slice has the items from one place up to
another; a splice has the items in front of a place, then those put in, then those behind the ones
taken out. -/
theorem slice_splice {items : List Value} (hlength : items.length < 2 ^ 53) :
    let n := items.length
    (∀ index, place index n ≤ n ∧ (Vanishing index → place index n = n) ∧
      (¬Vanishing index → place index n = meant index n) ∧
      (place (trunc index) n = place index n ↔ ¬Vanishing index ∨ n = 0)) ∧
    (∀ options : Value,
      let start := placeAt options "start" 0 n
      let last := placeAt options "end" n n
      start ≤ n ∧ last ≤ n ∧
      ∃ part : List Value, projected? functions items "$slice" options = some (.array part) ∧
        part.length = last - start ∧ ∀ i < last - start, part[i]? = items[start + i]?) ∧
    (∀ (options : Value) (inserted : List Value), options.arrayOption? "items" = some inserted →
      let start := placeAt options "start" 0 n
      let count := removedAt options start n
      start ≤ n ∧ start + count ≤ n ∧
      projected? functions items "$splice" options =
        some (.array (items.take start ++ inserted ++ items.drop (start + count)))) ∧
    ∀ count present, removed (trunc count) present = removed count present := by
  intro n
  have hlog : n.log2 < 53 := Binary64.log2_lt_iff.mpr hlength
  refine ⟨fun index => ⟨place_le hlog index, place_of_vanishing hlog, place_eq_meant hlog,
    place_trunc_iff hlog index⟩, fun options => ?_, fun options inserted hinserted => ?_,
    removed_trunc⟩
  · have hlast := placeAt_le hlog options "end" le_rfl
    refine ⟨placeAt_le hlog options "start" (Nat.zero_le n), hlast, _,
      projected?_slice functions items options, ?_, fun i hi => ?_⟩
    · exact length_slice hlast
    · rw [slice, List.getElem?_take_of_lt hi, List.getElem?_drop]
  · have hstart := placeAt_le hlog options "start" (Nat.zero_le n)
    have hcount : ∀ start, removedAt options start n ≤ n - start := fun start => by
      rw [removedAt]
      cases options.numberOption? "deleteCount" with
      | none => exact Nat.zero_le _
      | some count => exact removed_le count _
    have hremoved := hcount (placeAt options "start" 0 n)
    refine ⟨hstart, by omega, ?_⟩
    rw [projected?_splice functions items hinserted, splice_eq hlog]

/-- Three items from the second last on, and two of them replaced although more are to be taken
out. -/
theorem slice_splice_three :
    let functions : Functions := fun _ _ => .undefined
    let items : List Value := [.null, .bool true, .bool false]
    let options : Value := .record [("start", .number (-2.5)), ("deleteCount", .number 7.5),
      ("items", .array [.string "x"])]
    items.length < 2 ^ 53 ∧ options.arrayOption? "items" = some [.string "x"] ∧
      projected? functions items "$slice" options = some (.array [.bool true, .bool false]) ∧
      projected? functions items "$splice" options = some (.array [.null, .string "x"]) := by
  intro functions items options
  have hlength : items.length < 2 ^ 53 := by decide
  obtain ⟨-, hslice, hsplice, -⟩ := slice_splice functions hlength
  obtain ⟨-, -, part, hpart, hcount, hitems⟩ := hslice options
  have hinserted : options.arrayOption? "items" = some [.string "x"] := rfl
  obtain ⟨-, -, hmade⟩ := hsplice options _ hinserted
  have hstart : placeAt options "start" 0 items.length = 1 := by decide
  have hlast : placeAt options "end" items.length items.length = 3 := by decide
  have hremoved : removedAt options 1 items.length = 2 := by
    show removed 7.5 2 = 2
    rw [← min_toCount 7.5 (by decide)]
    decide
  rw [hstart, hlast] at hcount hitems
  refine ⟨hlength, hinserted, ?_, ?_⟩
  · obtain ⟨v, w, rfl⟩ := List.length_eq_two.mp hcount
    obtain rfl : v = .bool true := Option.some.inj (hitems 0 (by decide))
    obtain rfl : w = .bool false := Option.some.inj (hitems 1 (by decide))
    exact hpart
  · rw [hmade, hstart, hremoved]
    rfl

/-- Minus one half is the end of an array, although nothing is left of it in front of the point: a
slice from there on is empty, and one from its integer part on is the whole array. -/
theorem not_slice_meant :
    let functions : Functions := fun _ _ => .undefined
    let items : List Value := [.null, .bool true, .bool false]
    let options (start : Float) : Value := .record [("start", .number start)]
    meant (-0.5) items.length = 0 ∧ place (-0.5) items.length = 3 ∧
      projected? functions items "$slice" (options (-0.5)) = some (.array []) ∧
      projected? functions items "$slice" (options (trunc (-0.5))) = some (.array items) := by
  intro functions items options
  have hvanishing : Vanishing (-0.5) := by
    refine ⟨-1 / 2, ?_, by norm_num, by norm_num⟩
    have hparts : parts (-0.5) = .finite true (2 ^ 52) (-53) := by decide
    rw [Binary64.rational?_of_parts hparts]
    norm_num
  have hlog : items.length.log2 < 53 := by decide
  refine ⟨meant_of_vanishing hvanishing, place_of_vanishing hlog hvanishing, ?_, ?_⟩
  · have hstart : placeAt (options (-0.5)) "start" 0 items.length = 3 :=
      place_of_vanishing hlog hvanishing
    rw [projected?_slice, hstart]
    rfl
  · have hstart : placeAt (options (trunc (-0.5))) "start" 0 items.length = 0 :=
      (place_eq_meant hlog (not_vanishing_trunc _)).trans <|
        (meant_trunc ..).trans (meant_of_vanishing hvanishing)
    rw [projected?_slice, hstart]
    rfl

end Items

end RecordQuery

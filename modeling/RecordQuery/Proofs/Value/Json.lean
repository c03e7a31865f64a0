import RecordQuery.Proofs.Binary64.Integer
import RecordQuery.Proofs.Value.Filled
import RecordQuery.Proofs.Value.Similar

/-!
# Values that come back from JSON

What JSON cannot say is lost when a value is converted to it.  Nothing more is lost on the way back
and forth again: converting JSON to a value keeps all of it.  A value that is made of what JSON can
say comes back as it was, with its keys in order and with its zeros positive.

* `Json.Number.ofFloat?_toFloat`, `Json.Number.toFloat_of_ofFloat?`: the same for numbers.
* `Value.ofJson_toJson_record`: a record comes back with the fields that are not missing, in their
  order.
* `Value.toJson_ofJson_toJson`: converting to JSON, back and to JSON again.
* `Value.Plain`, `Value.mapNumbers`: what JSON can say, and a value with other numbers.
* `Value.ofJson_toJson_of_plain`: a plain value comes back.
* `Value.json_retraction`: both together.
-/

namespace RecordQuery

open Binary64 (positiveZero)

/-! ### Numbers -/

namespace Json.Number

theorem ofFloat?_ofInt {n : Int} (hn : n.natAbs < 9007199254740992) :
    ofFloat? (Float.ofInt n) = some (.integer n) := by
  have h : Binary64.integer? (Float.ofInt n) = some n :=
    Binary64.integer?_ofInt (Binary64.log2_lt_iff.mpr hn)
  rw [ofFloat?, h]
  exact if_pos hn

/-- A number that comes from a double is the number of its double. -/
theorem ofFloat?_toFloat {x : Float} {n : Json.Number} (h : ofFloat? x = some n) :
    ofFloat? n.toFloat = some n := by
  have hx := h
  rw [ofFloat?] at h
  split at h
  · split at h
    · next hn => cases h; exact ofFloat?_ofInt hn
    · cases h; exact hx
  · split at h
    · cases h; exact hx
    · cases h

/-- A double comes back from its number, with the sign of zero lost. -/
theorem toFloat_of_ofFloat? {x : Float} {n : Json.Number} (h : ofFloat? x = some n) :
    n.toFloat = positiveZero x := by
  have hreal : (∀ k : Int, Binary64.integer? x = some k → ¬ k.natAbs < 9007199254740992) →
      x = positiveZero x := by
    intro hlarge
    rw [positiveZero, if_neg]
    rintro hzero
    obtain ⟨negative, hparts⟩ := (Binary64.beq_zero_iff x).mp hzero
    refine hlarge 0 ?_ (by decide)
    rw [Binary64.integer?, hparts]
    cases negative <;> rfl
  rw [ofFloat?] at h
  split at h
  · next k hk =>
    split at h
    · next hn => cases h; exact Binary64.ofInt_of_integer? hk (Binary64.log2_lt_iff.mpr hn)
    · next hn =>
      cases h
      refine hreal fun k' hk' => ?_
      cases hk.symm.trans hk'
      exact hn
  · next hnone =>
    split at h
    · cases h
      exact hreal fun k hk => by rw [hnone] at hk; cases hk
    · cases h

theorem isSome_ofFloat? (x : Float) : (ofFloat? x).isSome = x.isFinite := by
  rw [ofFloat?]
  split
  · next n hn =>
    have hfinite : x.isFinite = true := by
      rw [Binary64.isFinite_iff]
      rw [Binary64.integer?] at hn
      split at hn
      · next hparts => exact ⟨_, _, _, hparts⟩
      · cases hn
    rw [hfinite]
    split <;> rfl
  · cases x.isFinite <;> rfl

end Json.Number

namespace Value

/-! ### Items and entries -/

/-- The fields of a record that are there. -/
def present (entries : Entries) : Entries := entries.filter fun entry => !entry.2.isUndefined

theorem itemsToJson_eq_map (items : List Value) : itemsToJson items = items.map toJson := by
  induction items with
  | nil => rfl
  | cons item items ih => rw [itemsToJson, ih, List.map_cons]

theorem itemsOfJson_eq_map (items : List Json) : itemsOfJson items = items.map ofJson := by
  induction items with
  | nil => rfl
  | cons item items ih => rw [itemsOfJson, ih, List.map_cons]

theorem entriesToJson_eq_map (entries : Entries) :
    entriesToJson entries = (present entries).map fun entry => (entry.1, entry.2.toJson) := by
  induction entries with
  | nil => rfl
  | cons entry rest ih =>
    obtain ⟨key, value⟩ := entry
    rw [entriesToJson, ih, present, present, List.filter_cons]
    cases value.isUndefined <;> rfl

theorem entriesOfJson_eq_foldl (members : List (String × Json)) (entries : Entries) :
    entriesOfJson members entries =
      (members.map fun member => (member.1, ofJson member.2)).foldl
        (fun found entry => Assoc.insert entry.1 entry.2 found) entries := by
  induction members generalizing entries with
  | nil => rfl
  | cons member rest ih => rw [entriesOfJson, ih, List.map_cons, List.foldl_cons]

theorem nodup_keys_present {entries : Entries} (h : (Assoc.keys entries).Nodup) :
    (Assoc.keys (present entries)).Nodup :=
  (List.filter_sublist.map Prod.fst).nodup h

theorem ofJson_toJson_array (items : List Value) :
    ofJson (Value.array items).toJson = .array (items.map fun item => ofJson item.toJson) := by
  rw [toJson, ofJson, itemsToJson_eq_map, itemsOfJson_eq_map, List.map_map]
  rfl

/-- A record comes back with the fields that are there, in their order. -/
theorem ofJson_toJson_record {entries : Entries} (h : (Assoc.keys entries).Nodup) :
    ofJson (Value.record entries).toJson =
      .record ((present entries).map fun entry => (entry.1, ofJson entry.2.toJson)) := by
  have hkeys : (Assoc.keys ((present entries).map fun entry =>
      (entry.1, ofJson entry.2.toJson))).Nodup := by
    rw [Assoc.keys_map fun v : Value => ofJson v.toJson]
    exact nodup_keys_present h
  rw [toJson, ofJson, entriesToJson_eq_map, entriesOfJson_eq_foldl, List.map_map]
  exact congrArg Value.record (Assoc.ofList_of_nodup hkeys)

theorem present_map_ofJson (f : Value → Json) (entries : Entries) :
    present (entries.map fun entry => (entry.1, ofJson (f entry.2))) =
      entries.map fun entry => (entry.1, ofJson (f entry.2)) := by
  refine List.filter_eq_self.mpr (List.forall_mem_map.mpr fun entry _ => ?_)
  cases h : ofJson (f entry.2) with
  | undefined => exact absurd h (ofJson_ne_undefined _)
  | _ => rfl

/-! ### To JSON and back and again -/

theorem toJson_ofJson_toJson_of_scalar {v : Value} (ha : v.array? = none) (hr : v.record? = none) :
    (ofJson v.toJson).toJson = v.toJson := by
  cases v with
  | array => cases ha
  | record => cases hr
  | number x =>
    rw [toJson]
    cases h : Json.Number.ofFloat? x with
    | none => rfl
    | some n =>
      show toJson (.number n.toFloat) = .number n
      rw [toJson, Json.Number.ofFloat?_toFloat h]
  | binary bytes =>
    -- bytes become an array of small integers
    rw [toJson, ofJson, toJson, itemsOfJson_eq_map, itemsToJson_eq_map, List.map_map, List.map_map]
    refine congrArg Json.array (List.map_congr_left fun b _ => ?_)
    have hb : (b.toNat : Int).natAbs < 9007199254740992 := by
      have := b.toNat_lt
      omega
    show toJson (.number (Float.ofInt b.toNat)) = .number (.integer b.toNat)
    rw [toJson, Json.Number.ofFloat?_ofInt hb]
  | _ => rfl

/-- Converting a value to JSON, back to a value and to JSON again gives the same JSON. -/
theorem toJson_ofJson_toJson {v : Value} (h : v.WellFormed) :
    (ofJson v.toJson).toJson = v.toJson := by
  induction v using Value.induct with
  | scalar v ha hr => exact toJson_ofJson_toJson_of_scalar ha hr
  | array items ih =>
    rw [wellFormed_array] at h
    rw [ofJson_toJson_array, toJson, toJson, itemsToJson_eq_map, itemsToJson_eq_map, List.map_map]
    exact congrArg Json.array (List.map_congr_left fun item hi => ih item hi (h item hi))
  | record entries ih =>
    rw [wellFormed_record] at h
    rw [ofJson_toJson_record h.1, toJson, toJson, entriesToJson_eq_map, entriesToJson_eq_map,
      present_map_ofJson, List.map_map]
    refine congrArg Json.object (List.map_congr_left fun entry he => ?_)
    have hmem := List.mem_of_mem_filter he
    exact congrArg (Prod.mk entry.1) (ih entry hmem (h.2 entry hmem))

/-! ### Values that come back -/

/-- Made of null, booleans, finite numbers, strings, arrays and records. -/
inductive Plain : Value → Prop
  | null : Plain .null
  | bool (b : Bool) : Plain (.bool b)
  | number {x : Float} : x.isFinite = true → Plain (.number x)
  | string (s : String) : Plain (.string s)
  | array {items : List Value} : (∀ item ∈ items, Plain item) → Plain (.array items)
  | record {entries : Entries} : (∀ entry ∈ entries, Plain entry.2) → Plain (.record entries)

mutual

/-- A value with its numbers mapped, at every depth. -/
def mapNumbers (f : Float → Float) : Value → Value
  | .number x => .number (f x)
  | .array items => .array (mapNumbersItems f items)
  | .record entries => .record (mapNumbersEntries f entries)
  | .undefined => .undefined
  | .null => .null
  | .bool b => .bool b
  | .string s => .string s
  | .date t => .date t
  | .binary bytes => .binary bytes
  | .function name => .function name

/-- Items with their numbers mapped. -/
def mapNumbersItems (f : Float → Float) : List Value → List Value
  | [] => []
  | item :: items => mapNumbers f item :: mapNumbersItems f items

/-- Entries with their numbers mapped; the keys stay as they are. -/
def mapNumbersEntries (f : Float → Float) : List (String × Value) → List (String × Value)
  | [] => []
  | (key, value) :: entries => (key, mapNumbers f value) :: mapNumbersEntries f entries

end

section

variable (f : Float → Float)

theorem mapNumbers_array (items : List Value) :
    (Value.array items).mapNumbers f = .array (items.map (mapNumbers f)) := by
  rw [mapNumbers]
  congr 1
  induction items with
  | nil => rfl
  | cons item items ih => rw [mapNumbersItems, ih, List.map_cons]

theorem mapNumbers_record (entries : Entries) :
    (Value.record entries).mapNumbers f =
      .record (entries.map fun entry => (entry.1, entry.2.mapNumbers f)) := by
  rw [mapNumbers]
  congr 1
  induction entries with
  | nil => rfl
  | cons entry rest ih => rw [mapNumbersEntries, ih, List.map_cons]

theorem WellFormed.mapNumbers {v : Value} (h : v.WellFormed) : (v.mapNumbers f).WellFormed := by
  induction v using Value.induct with
  | scalar v ha hr =>
    cases v with
    | array => cases ha
    | record => cases hr
    | _ => exact wellFormed_of_scalar rfl rfl
  | array items ih =>
    rw [wellFormed_array] at h
    rw [mapNumbers_array, wellFormed_array, List.forall_mem_map]
    exact fun item hi => ih item hi (h item hi)
  | record entries ih =>
    rw [wellFormed_record] at h
    rw [mapNumbers_record, wellFormed_record, Assoc.keys_map (Value.mapNumbers f),
      List.forall_mem_map]
    exact ⟨h.1, fun entry he => ih entry he (h.2 entry he)⟩

end

theorem Plain.similar_mapNumbers {f : Float → Float} {r : Float → Float → Prop}
    (hf : ∀ x : Float, x.isFinite = true → r (f x) x) {v : Value} (h : v.Plain) :
    Similar r (v.mapNumbers f) v := by
  induction h with
  | null => exact .null
  | bool b => exact .bool b
  | number hx => exact .number (hf _ hx)
  | string s => exact .string s
  | @array items _ ih =>
    rw [mapNumbers_array]
    refine .array fun i => ?_
    rw [List.getElem?_map]
    cases hi : items[i]? with
    | none => exact .none
    | some item => exact .some (ih item (List.mem_of_getElem? hi))
  | @record entries _ ih =>
    rw [mapNumbers_record]
    refine .record fun key => ?_
    rw [Assoc.get?_map (Value.mapNumbers f)]
    cases hg : Assoc.get? key entries with
    | none => exact .none
    | some v => exact .some (ih (key, v) (Assoc.mem_of_get? hg))

theorem Plain.isUndefined_eq_false {v : Value} (h : v.Plain) : v.isUndefined = false := by
  cases h <;> rfl

/-- A plain value comes back from JSON with the keys of its records in order; only zeros lose
their sign. -/
theorem ofJson_toJson_of_plain {v : Value} (h : v.Plain) (hv : v.WellFormed) :
    ofJson v.toJson = v.mapNumbers positiveZero := by
  induction h with
  | null | bool | string => rfl
  | @number x hx =>
    obtain ⟨n, hn⟩ := Option.isSome_iff_exists.mp ((Json.Number.isSome_ofFloat? x).trans hx)
    rw [toJson, hn, mapNumbers, ← Json.Number.toFloat_of_ofFloat? hn]
    rfl
  | @array items _ ih =>
    rw [wellFormed_array] at hv
    rw [ofJson_toJson_array, mapNumbers_array]
    exact congrArg Value.array (List.map_congr_left fun item hi => ih item hi (hv item hi))
  | @record entries hplain ih =>
    rw [wellFormed_record] at hv
    have hall : present entries = entries :=
      List.filter_eq_self.mpr fun entry he => by rw [(hplain entry he).isUndefined_eq_false]; rfl
    rw [ofJson_toJson_record hv.1, mapNumbers_record, hall]
    refine congrArg Value.record (List.map_congr_left fun entry he => ?_)
    exact congrArg (Prod.mk entry.1) (ih entry he (hv.2 entry he))

/-- **Conversion to JSON loses once and no more.**  Every value has the JSON of what comes back from
its JSON.  A plain value comes back itself, with its keys in order, and is equal to what it was. -/
theorem json_retraction {v : Value} (h : v.WellFormed) :
    (ofJson v.toJson).toJson = v.toJson ∧
      (v.Plain → ofJson v.toJson = v.mapNumbers positiveZero ∧ (ofJson v.toJson == v) = true) := by
  refine ⟨toJson_ofJson_toJson h, fun hplain => ?_⟩
  have hback := ofJson_toJson_of_plain hplain h
  refine ⟨hback, ?_⟩
  rw [hback]
  refine (beq_iff_similar (h.mapNumbers positiveZero) h).mpr ?_
  exact hplain.similar_mapNumbers fun x hx =>
    Binary64.positiveZero_beq (Binary64.isNaN_eq_false_of_isFinite hx)

/-- A date, bytes, a function, a missing field, a hole and numbers that JSON does not have. -/
def assorted : Value :=
  .record [("when", .date { seconds := 0, nanos := 0 }), ("raw", .binary [1, 255]),
    ("call", .function "f"), ("gone", .undefined),
    ("list", .array [.undefined, .number Binary64.nan, .number Binary64.infinity])]

/-- A record whose keys are not in alphabetical order, with a negative zero. -/
def disordered : Value :=
  .record [("b", .array [.null, .bool true, .number (Float.ofBits 0x8000000000000000)]),
    ("a", .record [("text", .string "s")])]

theorem json_retraction_samples :
    (ofJson assorted.toJson).toJson = assorted.toJson ∧
      ofJson disordered.toJson = disordered.mapNumbers positiveZero ∧
      (ofJson disordered.toJson == disordered) = true := by
  have hassorted : assorted.WellFormed := by simp [assorted]
  have hdisordered : disordered.WellFormed := by simp [disordered]
  have hplain : disordered.Plain := by
    refine .record ?_
    simp only [List.forall_mem_cons, List.not_mem_nil, false_implies, implies_true, and_true]
    refine ⟨.array ?_, .record ?_⟩
    · simp only [List.forall_mem_cons, List.not_mem_nil, false_implies, implies_true, and_true]
      exact ⟨.null, .bool true, .number rfl⟩
    · simp only [List.forall_mem_cons, List.not_mem_nil, false_implies, implies_true, and_true]
      exact .string "s"
  exact ⟨(json_retraction hassorted).1, (json_retraction hdisordered).2 hplain⟩

end Value

end RecordQuery

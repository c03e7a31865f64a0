import RecordQuery.Proofs.Value.Parts
import RecordQuery.Value.Json

/-!
# Records without missing values

`undefined` is what a missing field holds; a record that stores it has a field that is there and
missing at once.  Items of arrays are another matter, since a deletion leaves a hole.

* `Value.Filled`: no record inside the value has a field that is `undefined`.
* `Value.Filled.setField`, `Value.Filled.deleteField`: the updates that keep this.
* `Value.filled_ofJson`: a JSON text has no missing values.
-/

namespace RecordQuery.Value

/-- No field of a record inside the value is `undefined`. -/
def Filled (w : Value) : Prop :=
  ∀ ⦃entries : Entries⦄, Occurs (.record entries) w → ∀ entry ∈ entries, entry.2 ≠ .undefined

theorem Filled.of_occurs {v w : Value} (h : w.Filled) (ho : Occurs v w) : v.Filled :=
  fun _ he => h (he.trans ho)

@[simp] theorem filled_array {items : List Value} :
    (Value.array items).Filled ↔ ∀ item ∈ items, item.Filled := by
  constructor
  · intro h item hi
    exact h.of_occurs (.item hi .self)
  · intro h entries ho
    cases ho with
    | item hi ho => exact h _ hi ho

@[simp] theorem filled_record {entries : Entries} :
    (Value.record entries).Filled ↔ ∀ entry ∈ entries, entry.2 ≠ .undefined ∧ entry.2.Filled := by
  constructor
  · intro h entry he
    exact ⟨h .self entry he, h.of_occurs (.field he .self)⟩
  · intro h inner ho
    cases ho with
    | self => exact fun entry he => (h entry he).1
    | field he ho => exact (h _ he).2 ho

theorem filled_of_scalar {v : Value} (ha : v.array? = none) (hr : v.record? = none) : v.Filled := by
  intro entries ho
  cases ho with
  | self => cases hr
  | item => cases ha
  | field => cases hr

@[simp] theorem filled_undefined : Value.undefined.Filled := filled_of_scalar rfl rfl
@[simp] theorem filled_null : Value.null.Filled := filled_of_scalar rfl rfl
@[simp] theorem filled_bool (b : Bool) : (Value.bool b).Filled := filled_of_scalar rfl rfl
@[simp] theorem filled_number (x : Float) : (Value.number x).Filled := filled_of_scalar rfl rfl
@[simp] theorem filled_string (s : String) : (Value.string s).Filled := filled_of_scalar rfl rfl
@[simp] theorem filled_date (t : Instant) : (Value.date t).Filled := filled_of_scalar rfl rfl

theorem filled_array_map {α : Type} {f : α → Value} (hf : ∀ a, (f a).Filled) (xs : List α) :
    (Value.array (xs.map f)).Filled := by
  rw [filled_array, List.forall_mem_map]
  exact fun a _ => hf a

theorem Filled.field {w : Value} (h : w.Filled) (key : String) : (w.field key).Filled := by
  unfold Value.field
  cases hg : w.get? key with
  | none => exact filled_undefined
  | some v => exact h.of_occurs (occurs_of_get? hg)

theorem Filled.setField {w v : Value} (hw : w.Filled) (hv : v.Filled) (hne : v ≠ .undefined)
    (key : String) : (w.setField key v).Filled := by
  cases w with
  | record entries =>
    rw [filled_record] at hw
    refine filled_record.mpr fun entry he => ?_
    rcases Assoc.mem_insert he with rfl | he
    · exact ⟨hne, hv⟩
    · exact hw entry he
  | array items =>
    rw [filled_array] at hw
    unfold Value.setField
    dsimp only
    split
    · split
      · rw [filled_array, List.forall_mem_append, List.forall_mem_singleton]
        exact ⟨hw, hv⟩
      · rw [filled_array]
        intro item hi
        rcases List.mem_or_eq_of_mem_set hi with hi | rfl
        · exact hw item hi
        · exact hv
    · exact filled_array.mpr hw
  | _ => exact hw

theorem Filled.deleteField {w : Value} (hw : w.Filled) (key : String) :
    (w.deleteField key).Filled := by
  cases w with
  | record entries =>
    rw [filled_record] at hw
    exact filled_record.mpr fun entry he => hw entry (Assoc.mem_of_mem_erase he)
  | array items =>
    rw [filled_array] at hw
    unfold Value.deleteField
    dsimp only
    split
    · rw [filled_array]
      intro item hi
      rcases List.mem_or_eq_of_mem_set hi with hi | rfl
      · exact hw item hi
      · -- the hole
        exact filled_undefined
    · exact filled_array.mpr hw
  | _ => exact hw

/-! ### JSON -/

theorem ofJson_ne_undefined (json : Json) : ofJson json ≠ .undefined := by
  cases json <;> simp [ofJson]

mutual

/-- What JSON says is there. -/
theorem filled_ofJson : ∀ json : Json, (ofJson json).Filled
  | .null | .bool _ | .number _ | .string _ => by simp [ofJson]
  | .array items => by
    rw [ofJson, filled_array]
    exact filled_itemsOfJson items
  | .object members => filled_entriesOfJson members (by simp)

theorem filled_itemsOfJson : ∀ items : List Json, ∀ item ∈ itemsOfJson items, item.Filled
  | [] => by simp [itemsOfJson]
  | json :: items => by
    rw [itemsOfJson, List.forall_mem_cons]
    exact ⟨filled_ofJson json, filled_itemsOfJson items⟩

theorem filled_entriesOfJson : ∀ (members : List (String × Json)) {entries : Entries},
    (Value.record entries).Filled → (Value.record (entriesOfJson members entries)).Filled
  | [], _ => fun h => h
  | (key, json) :: members, _ => fun h => by
    rw [entriesOfJson]
    exact filled_entriesOfJson members
      (h.setField (filled_ofJson json) (ofJson_ne_undefined json) key)

end

end RecordQuery.Value

import RecordQuery.Proofs.Assoc
import RecordQuery.Value.Basic

/-!
# The parts of a value

* `Value.induct`, `Value.induct_entries`: induction over values, with the hypothesis for all items
  and all fields, and over records, with the hypothesis for the records in them.
* `Value.Occurs v w`: `v` is `w` or lies somewhere inside it.
* `Value.WellFormed`: no record inside a value repeats a key.  This is what the updates of records
  keep; `Value` itself leaves it open.
* `Value.setField_of_get?`, `Value.setField_setField`, `Value.get?_setField_self`: the laws of
  fields, for records and for arrays.
-/

namespace RecordQuery.Value

theorem record?_eq_some_iff {v : Value} {entries : Entries} :
    v.record? = some entries ↔ v = .record entries := by
  cases v <;> simp [record?]

theorem sizeOf_item_lt {items : List Value} {item : Value} (h : item ∈ items) :
    sizeOf item < sizeOf (Value.array items) := by
  have := List.sizeOf_lt_of_mem h
  rw [Value.array.sizeOf_spec]
  omega

theorem sizeOf_field_lt {entries : Entries} {entry : String × Value} (h : entry ∈ entries) :
    sizeOf entry.2 < sizeOf (Value.record entries) := by
  have h₁ := List.sizeOf_lt_of_mem h
  have h₂ : sizeOf entry = 1 + sizeOf entry.1 + sizeOf entry.2 := by cases entry; rfl
  rw [Value.record.sizeOf_spec]
  omega

/-- Induction over values: what has no items and no fields, arrays, and records. -/
theorem induct {motive : Value → Prop}
    (scalar : ∀ v : Value, v.array? = none → v.record? = none → motive v)
    (array : ∀ items : List Value, (∀ item ∈ items, motive item) → motive (.array items))
    (record : ∀ entries : Entries, (∀ entry ∈ entries, motive entry.2) → motive (.record entries)) :
    ∀ v : Value, motive v
  | .array items => array items fun item _ => induct scalar array record item
  | .record entries => record entries fun entry _ => induct scalar array record entry.2
  | .undefined => scalar _ rfl rfl
  | .null => scalar _ rfl rfl
  | .bool _ => scalar _ rfl rfl
  | .number _ => scalar _ rfl rfl
  | .string _ => scalar _ rfl rfl
  | .date _ => scalar _ rfl rfl
  | .binary _ => scalar _ rfl rfl
  | .function _ => scalar _ rfl rfl
termination_by v => sizeOf v
decreasing_by
  · exact sizeOf_item_lt ‹_›
  · exact sizeOf_field_lt ‹_›

/-- Induction over records, with the hypothesis for the records under their keys. -/
theorem induct_entries {motive : Entries → Prop}
    (step : ∀ entries : Entries, (∀ key nested, (key, Value.record nested) ∈ entries →
      motive nested) → motive entries) : ∀ entries : Entries, motive entries :=
  fun entries => step entries fun _ nested _ => induct_entries step nested
termination_by entries => sizeOf entries
decreasing_by
  next he =>
  have hlt := sizeOf_field_lt he
  simp only [Value.record.sizeOf_spec] at hlt
  omega

/-! ### Parts -/

/-- `v` is `w`, or an item or a field of something that lies in `w`. -/
inductive Occurs (v : Value) : Value → Prop
  | self : Occurs v v
  | item {x : Value} {items : List Value} : x ∈ items → Occurs v x → Occurs v (.array items)
  | field {entry : String × Value} {entries : Entries} : entry ∈ entries → Occurs v entry.2 →
      Occurs v (.record entries)

theorem Occurs.trans {u v w : Value} (huv : Occurs u v) (hvw : Occurs v w) : Occurs u w := by
  induction hvw with
  | self => exact huv
  | item hx _ ih => exact .item hx ih
  | field he _ ih => exact .field he ih

/-- No record inside the value repeats a key. -/
def WellFormed (w : Value) : Prop :=
  ∀ ⦃entries : Entries⦄, Occurs (.record entries) w → (Assoc.keys entries).Nodup

theorem WellFormed.of_occurs {v w : Value} (h : w.WellFormed) (ho : Occurs v w) : v.WellFormed :=
  fun _ he => h (he.trans ho)

@[simp] theorem wellFormed_array {items : List Value} :
    (Value.array items).WellFormed ↔ ∀ item ∈ items, item.WellFormed := by
  constructor
  · intro h item hi
    exact h.of_occurs (.item hi .self)
  · intro h entries ho
    cases ho with
    | item hi ho => exact h _ hi ho

@[simp] theorem wellFormed_record {entries : Entries} :
    (Value.record entries).WellFormed ↔
      (Assoc.keys entries).Nodup ∧ ∀ entry ∈ entries, entry.2.WellFormed := by
  constructor
  · intro h
    exact ⟨h .self, fun entry he => h.of_occurs (.field he .self)⟩
  · rintro ⟨hd, h⟩ inner ho
    cases ho with
    | self => exact hd
    | field he ho => exact h _ he ho

theorem wellFormed_of_scalar {v : Value} (ha : v.array? = none) (hr : v.record? = none) :
    v.WellFormed := by
  intro entries ho
  cases ho with
  | self => cases hr
  | item => cases ha
  | field => cases hr

@[simp] theorem wellFormed_undefined : Value.undefined.WellFormed := wellFormed_of_scalar rfl rfl
@[simp] theorem wellFormed_null : Value.null.WellFormed := wellFormed_of_scalar rfl rfl
@[simp] theorem wellFormed_bool (b : Bool) : (Value.bool b).WellFormed :=
  wellFormed_of_scalar rfl rfl
@[simp] theorem wellFormed_number (x : Float) : (Value.number x).WellFormed :=
  wellFormed_of_scalar rfl rfl
@[simp] theorem wellFormed_string (s : String) : (Value.string s).WellFormed :=
  wellFormed_of_scalar rfl rfl
@[simp] theorem wellFormed_date (t : Instant) : (Value.date t).WellFormed :=
  wellFormed_of_scalar rfl rfl
@[simp] theorem wellFormed_binary (bytes : List UInt8) : (Value.binary bytes).WellFormed :=
  wellFormed_of_scalar rfl rfl
@[simp] theorem wellFormed_function (name : String) : (Value.function name).WellFormed :=
  wellFormed_of_scalar rfl rfl

/-! ### Fields -/

theorem occurs_of_get? {v w : Value} {key : String} (h : w.get? key = some v) : Occurs v w := by
  cases w with
  | record entries => exact .field (Assoc.mem_of_get? h) .self
  | array items =>
    obtain ⟨i, -, hi⟩ := Option.bind_eq_some_iff.mp h
    exact .item (List.mem_of_getElem? hi) .self
  | _ => exact absurd h (by simp [get?])

theorem occurs_of_follow? {v : Value} : ∀ {path : List String} {w : Value},
    follow? path w = some v → Occurs v w := by
  intro path
  induction path with
  | nil =>
    intro w h
    rw [follow?, Option.some.injEq] at h
    exact h ▸ .self
  | cons key path ih =>
    intro w h
    obtain ⟨child, hc, h⟩ := Option.bind_eq_some_iff.mp h
    exact (ih h).trans (occurs_of_get? hc)

theorem WellFormed.field {w : Value} (h : w.WellFormed) (key : String) :
    (w.field key).WellFormed := by
  unfold Value.field
  cases hg : w.get? key with
  | none => exact wellFormed_undefined
  | some v => exact h.of_occurs (occurs_of_get? hg)

theorem field_of_get? {w v : Value} {key : String} (h : w.get? key = some v) :
    w.field key = v := by rw [Value.field, h, Option.getD_some]

theorem field_of_get?_eq_none {w : Value} {key : String} (h : w.get? key = none) :
    w.field key = .undefined := by rw [Value.field, h, Option.getD_none]

theorem setField_of_get? {w v : Value} {key : String} (h : w.get? key = some v) :
    w.setField key v = w := by
  cases w with
  | record entries => exact congrArg Value.record (Assoc.insert_get?_self h)
  | array items =>
    obtain ⟨i, hk, hi⟩ := Option.bind_eq_some_iff.mp h
    obtain ⟨hlt, he⟩ := List.getElem?_eq_some_iff.mp hi
    simp only [setField, hk, if_neg (Nat.ne_of_lt hlt)]
    rw [← he, List.set_getElem_self]
  | _ => exact absurd h (by simp [get?])

theorem setField_setField (w : Value) (key : String) (first second : Value) :
    (w.setField key first).setField key second = w.setField key second := by
  cases w with
  | record entries => exact congrArg Value.record (Assoc.insert_insert ..)
  | array items =>
    cases hk : Path.index? key with
    | none => simp [setField, hk]
    | some i =>
      by_cases hi : i = items.length
      · -- the first write appends, so the second one goes to an item
        subst hi
        simp [setField, hk]
      · simp [setField, hk, hi]
  | _ => rfl

theorem get?_setField_self {w old : Value} {key : String} (h : w.get? key = some old)
    (v : Value) : (w.setField key v).get? key = some v := by
  cases w with
  | record entries => exact Assoc.get?_insert_self ..
  | array items =>
    obtain ⟨i, hk, hi⟩ := Option.bind_eq_some_iff.mp h
    obtain ⟨hlt, -⟩ := List.getElem?_eq_some_iff.mp hi
    simp [setField, get?, hk, Nat.ne_of_lt hlt, hlt]
  | _ => exact absurd h (by simp [get?])

theorem WellFormed.setField {w v : Value} (hw : w.WellFormed) (hv : v.WellFormed)
    (key : String) : (w.setField key v).WellFormed := by
  cases w with
  | record entries =>
    rw [wellFormed_record] at hw
    refine wellFormed_record.mpr ⟨Assoc.nodup_insert hw.1, fun entry he => ?_⟩
    rcases Assoc.mem_insert he with rfl | he
    · exact hv
    · exact hw.2 entry he
  | array items =>
    rw [wellFormed_array] at hw
    cases hk : Path.index? key with
    | none => simpa [Value.setField, hk] using hw
    | some i =>
      simp only [Value.setField, hk]
      split
      · rw [wellFormed_array]
        intro item hi
        rcases List.mem_append.mp hi with hi | hi
        · exact hw item hi
        · rw [List.mem_singleton.mp hi]; exact hv
      · rw [wellFormed_array]
        intro item hi
        rcases List.mem_or_eq_of_mem_set hi with hi | rfl
        · exact hw item hi
        · exact hv
  | _ => exact hw

theorem WellFormed.deleteField {w : Value} (hw : w.WellFormed) (key : String) :
    (w.deleteField key).WellFormed := by
  cases w with
  | record entries =>
    rw [wellFormed_record] at hw
    exact wellFormed_record.mpr
      ⟨Assoc.nodup_erase hw.1, fun entry he => hw.2 entry (Assoc.mem_of_mem_erase he)⟩
  | array items =>
    rw [wellFormed_array] at hw
    cases hk : Path.index? key with
    | none => simpa [Value.deleteField, hk] using hw
    | some i =>
      simp only [Value.deleteField, hk, wellFormed_array]
      intro item hi
      rcases List.mem_or_eq_of_mem_set hi with hi | rfl
      · exact hw item hi
      · exact wellFormed_undefined
  | _ => exact hw

end RecordQuery.Value

/-!
# Ordered association lists

Lists of keys with values, in the order in which the keys were first inserted.

* `Assoc.get?`, `Assoc.contains`: lookup of a key.
* `Assoc.insert`, `Assoc.erase`: update of one key; the other keys keep their order.
* `Assoc.ofList`: insertion of all pairs of a list; of repeated keys the last value counts, in the
  place of the first.
-/

namespace RecordQuery.Assoc

variable {α : Type}

/-- The value of a key. -/
def get? (key : String) : List (String × α) → Option α
  | [] => none
  | (k, v) :: rest => if k = key then some v else get? key rest

/-- Whether there is a value for a key. -/
def contains (key : String) (entries : List (String × α)) : Bool := (get? key entries).isSome

/-- Replaces the value of a key in its place, or adds the key at the end. -/
def insert (key : String) (value : α) : List (String × α) → List (String × α)
  | [] => [(key, value)]
  | (k, v) :: rest => if k = key then (k, value) :: rest else (k, v) :: insert key value rest

/-- Removes a key. -/
def erase (key : String) : List (String × α) → List (String × α)
  | [] => []
  | (k, v) :: rest => if k = key then rest else (k, v) :: erase key rest

/-- The pairs of a list inserted one after the other. -/
def ofList (entries : List (String × α)) : List (String × α) :=
  entries.foldl (fun found entry => insert entry.1 entry.2 found) []

/-- The keys in their order. -/
def keys (entries : List (String × α)) : List String := entries.map Prod.fst

@[simp] theorem get?_insert_self (key : String) (value : α) (entries : List (String × α)) :
    get? key (insert key value entries) = some value := by
  induction entries with
  | nil => simp [insert, get?]
  | cons entry rest ih =>
    obtain ⟨k, v⟩ := entry
    by_cases h : k = key <;> simp [insert, get?, h, ih]

theorem get?_insert_of_ne {key other : String} (h : key ≠ other) (value : α)
    (entries : List (String × α)) : get? other (insert key value entries) = get? other entries := by
  induction entries with
  | nil => simp [insert, get?, h]
  | cons entry rest ih =>
    obtain ⟨k, v⟩ := entry
    by_cases hk : k = key
    · subst hk
      simp [insert, get?, h]
    · simp [insert, get?, hk, ih]

end RecordQuery.Assoc

import Mathlib.Data.List.Perm.Basic
import RecordQuery.Assoc

/-!
# Lookup and update of association lists

The lists of `Assoc` may repeat a key; then lookup sees the first entry.  Most laws hold for all of
them.  Those that speak of removal, or of all entries at once, ask that the keys are distinct,
`(keys entries).Nodup`, and every update keeps that.

* `mem_of_get?`, `get?_of_mem`: lookup and membership.
* `insert_of_get?_eq_none`, `insert_get?_self`, `insert_insert`: what an insertion makes.
* `keys_insert`: the keys after an insertion.
* `get?_erase_self`, `get?_erase_of_ne`: lookup after a removal.
* `filter_keys_insert`, `filter_keys_erase`: an update leaves the other keys in their order.
* `erase_eq_filter`: a removal keeps the entries of the other keys.
* `nodup_insert`, `nodup_erase`, `nodup_ofList`: distinct keys are kept, and made.
* `ofList_of_nodup`: pairs with distinct keys are inserted as they stand.
* `get?_ofList_of_not_mem`: of the pairs with one key the last one is found.
* `keys_map`, `get?_map`: keys and lookup when values are mapped.
* `get?_append_of_not_mem`, `insert_append_of_not_mem`: behind a list without the key.
-/

namespace RecordQuery.Assoc

variable {α : Type}

/-! ### Lookup -/

@[simp] theorem get?_nil (key : String) : get? key ([] : List (String × α)) = none := rfl

@[simp] theorem get?_cons_self (key : String) (value : α) (rest : List (String × α)) :
    get? key ((key, value) :: rest) = some value := by rw [get?, if_pos rfl]

theorem get?_cons_of_ne {k key : String} (h : k ≠ key) (value : α) (rest : List (String × α)) :
    get? key ((k, value) :: rest) = get? key rest := by rw [get?, if_neg h]

@[simp] theorem keys_nil : keys ([] : List (String × α)) = [] := rfl

@[simp] theorem keys_cons (entry : String × α) (rest : List (String × α)) :
    keys (entry :: rest) = entry.1 :: keys rest := rfl

@[simp] theorem keys_append (first second : List (String × α)) :
    keys (first ++ second) = keys first ++ keys second := List.map_append ..

theorem mem_keys_of_mem {key : String} {value : α} {entries : List (String × α)}
    (h : (key, value) ∈ entries) : key ∈ keys entries := List.mem_map.mpr ⟨_, h, rfl⟩

theorem mem_of_get? {key : String} {value : α} : ∀ {entries : List (String × α)},
    get? key entries = some value → (key, value) ∈ entries := by
  intro entries
  induction entries with
  | nil => intro h; simp at h
  | cons entry rest ih =>
    intro h
    obtain ⟨k, v⟩ := entry
    by_cases hk : k = key
    · subst hk
      rw [get?_cons_self, Option.some.injEq] at h
      subst h
      exact List.mem_cons_self
    · rw [get?_cons_of_ne hk] at h
      exact List.mem_cons_of_mem _ (ih h)

theorem get?_eq_none_iff {key : String} : ∀ {entries : List (String × α)},
    get? key entries = none ↔ key ∉ keys entries := by
  intro entries
  induction entries with
  | nil => simp
  | cons entry rest ih =>
    obtain ⟨k, v⟩ := entry
    by_cases hk : k = key
    · subst hk; simp
    · rw [get?_cons_of_ne hk, ih, keys_cons, List.mem_cons, not_or]
      exact ⟨fun h => ⟨fun e => hk e.symm, h⟩, fun h => h.2⟩

/-- With distinct keys every entry is found under its key. -/
theorem get?_of_mem {key : String} {value : α} : ∀ {entries : List (String × α)},
    (keys entries).Nodup → (key, value) ∈ entries → get? key entries = some value := by
  intro entries
  induction entries with
  | nil => intro _ h; simp at h
  | cons entry rest ih =>
    intro hd h
    obtain ⟨k, v⟩ := entry
    rw [keys_cons, List.nodup_cons] at hd
    rcases List.mem_cons.mp h with he | hr
    · cases he; exact get?_cons_self ..
    · rw [get?_cons_of_ne]
      · exact ih hd.2 hr
      · intro e
        subst e
        exact hd.1 (mem_keys_of_mem hr)

/-! ### Insertion -/

theorem insert_of_get?_eq_none {key : String} (value : α) : ∀ {entries : List (String × α)},
    get? key entries = none → insert key value entries = entries ++ [(key, value)] := by
  intro entries
  induction entries with
  | nil => intro _; rfl
  | cons entry rest ih =>
    intro h
    obtain ⟨k, v⟩ := entry
    by_cases hk : k = key
    · subst hk; simp at h
    · rw [get?_cons_of_ne hk] at h
      rw [insert, if_neg hk, ih h, List.cons_append]

theorem insert_get?_self {key : String} {value : α} : ∀ {entries : List (String × α)},
    get? key entries = some value → insert key value entries = entries := by
  intro entries
  induction entries with
  | nil => intro h; simp at h
  | cons entry rest ih =>
    intro h
    obtain ⟨k, v⟩ := entry
    by_cases hk : k = key
    · subst hk
      rw [get?_cons_self, Option.some.injEq] at h
      rw [insert, if_pos rfl, h]
    · rw [get?_cons_of_ne hk] at h
      rw [insert, if_neg hk, ih h]

/-- Of two insertions under one key the second counts. -/
theorem insert_insert (key : String) (first second : α) (entries : List (String × α)) :
    insert key second (insert key first entries) = insert key second entries := by
  induction entries with
  | nil => simp [insert]
  | cons entry rest ih =>
    obtain ⟨k, v⟩ := entry
    by_cases hk : k = key
    · subst hk; simp [insert]
    · rw [insert, if_neg hk, insert, if_neg hk, ih, insert, if_neg hk]

theorem get?_insert (key other : String) (value : α) (entries : List (String × α)) :
    get? other (insert key value entries) =
      if key = other then some value else get? other entries := by
  by_cases h : key = other
  · subst h; rw [get?_insert_self, if_pos rfl]
  · rw [get?_insert_of_ne h, if_neg h]

theorem mem_insert {key : String} {value : α} {entry : String × α} :
    ∀ {entries : List (String × α)}, entry ∈ insert key value entries →
      entry = (key, value) ∨ entry ∈ entries := by
  intro entries
  induction entries with
  | nil => intro h; exact Or.inl (List.mem_singleton.mp h)
  | cons first rest ih =>
    intro h
    obtain ⟨k, v⟩ := first
    by_cases hk : k = key
    · rw [insert, if_pos hk] at h
      rcases List.mem_cons.mp h with he | hr
      · subst hk; exact Or.inl he
      · exact Or.inr (List.mem_cons_of_mem _ hr)
    · rw [insert, if_neg hk] at h
      rcases List.mem_cons.mp h with he | hr
      · exact Or.inr (he ▸ List.mem_cons_self)
      · exact (ih hr).imp id (List.mem_cons_of_mem _)

theorem mem_keys_insert {key other : String} {value : α} {entries : List (String × α)}
    (h : other ∈ keys (insert key value entries)) : other = key ∨ other ∈ keys entries := by
  obtain ⟨entry, he, rfl⟩ := List.mem_map.mp h
  rcases mem_insert he with rfl | he
  · exact Or.inl rfl
  · exact Or.inr (List.mem_map_of_mem he)

theorem mem_keys_insert_iff {key other : String} {value : α} {entries : List (String × α)} :
    other ∈ keys (insert key value entries) ↔ other = key ∨ other ∈ keys entries := by
  refine ⟨mem_keys_insert, fun h => ?_⟩
  by_contra hnone
  rw [← get?_eq_none_iff, get?_insert] at hnone
  split at hnone
  · cases hnone
  · next hne => exact h.elim (fun he => hne he.symm) (get?_eq_none_iff.mp hnone)

/-- A new key goes behind the others; one that is there stays where it is. -/
theorem keys_insert (key : String) (value : α) (entries : List (String × α)) :
    keys (insert key value entries) =
      if key ∈ keys entries then keys entries else keys entries ++ [key] := by
  induction entries with
  | nil => rfl
  | cons entry rest ih =>
    obtain ⟨k, v⟩ := entry
    by_cases hk : k = key
    · subst hk
      rw [insert, if_pos rfl, keys_cons, keys_cons, if_pos List.mem_cons_self]
    · have hmem : key ∈ keys ((k, v) :: rest) ↔ key ∈ keys rest := by
        rw [keys_cons, List.mem_cons]
        exact or_iff_right fun he => hk he.symm
      rw [insert, if_neg hk, keys_cons, ih]
      simp only [hmem]
      split <;> rfl

theorem length_insert_le (key : String) (value : α) (entries : List (String × α)) :
    (insert key value entries).length ≤ entries.length + 1 := by
  induction entries with
  | nil => exact Nat.le_refl _
  | cons entry rest ih =>
    obtain ⟨k, v⟩ := entry
    by_cases hk : k = key
    · rw [insert, if_pos hk, List.length_cons, List.length_cons]
      omega
    · rw [insert, if_neg hk, List.length_cons, List.length_cons]
      omega

theorem mem_foldl_insert {entry : String × α} : ∀ {items entries : List (String × α)},
    entry ∈ items.foldl (fun found item => insert item.1 item.2 found) entries →
      entry ∈ items ∨ entry ∈ entries := by
  intro items
  induction items with
  | nil => intro entries h; exact Or.inr h
  | cons item items ih =>
    intro entries h
    rcases ih h with hm | hm
    · exact Or.inl (List.mem_cons_of_mem _ hm)
    · rcases mem_insert hm with he | hm
      · exact Or.inl (he ▸ List.mem_cons_self)
      · exact Or.inr hm

theorem mem_of_mem_ofList {entry : String × α} {entries : List (String × α)}
    (h : entry ∈ ofList entries) : entry ∈ entries :=
  (mem_foldl_insert h).elim id fun hm => absurd hm List.not_mem_nil

/-! ### Removal -/

theorem mem_of_mem_erase {key : String} {entry : String × α} :
    ∀ {entries : List (String × α)}, entry ∈ erase key entries → entry ∈ entries := by
  intro entries
  induction entries with
  | nil => intro h; exact absurd h (by simp [erase])
  | cons first rest ih =>
    intro h
    obtain ⟨k, v⟩ := first
    by_cases hk : k = key
    · rw [erase, if_pos hk] at h
      exact List.mem_cons_of_mem _ h
    · rw [erase, if_neg hk] at h
      rcases List.mem_cons.mp h with he | hr
      · exact he ▸ List.mem_cons_self
      · exact List.mem_cons_of_mem _ (ih hr)

theorem keys_erase (key : String) (entries : List (String × α)) :
    keys (erase key entries) = (keys entries).erase key := by
  induction entries with
  | nil => rfl
  | cons entry rest ih =>
    obtain ⟨k, v⟩ := entry
    by_cases hk : k = key
    · subst hk; simp [erase]
    · rw [erase, if_neg hk, keys_cons, keys_cons, ih, List.erase_cons_tail]
      simpa using hk

theorem get?_erase_self {key : String} {entries : List (String × α)} (h : (keys entries).Nodup) :
    get? key (erase key entries) = none := by
  rw [get?_eq_none_iff, keys_erase]
  exact h.not_mem_erase

theorem get?_erase_of_ne {key other : String} (h : key ≠ other) (entries : List (String × α)) :
    get? other (erase key entries) = get? other entries := by
  induction entries with
  | nil => rfl
  | cons entry rest ih =>
    obtain ⟨k, v⟩ := entry
    by_cases hk : k = key
    · subst hk
      rw [erase, if_pos rfl, get?_cons_of_ne h]
    · rw [erase, if_neg hk]
      by_cases ho : k = other
      · subst ho; simp
      · rw [get?_cons_of_ne ho, get?_cons_of_ne ho, ih]

/-! ### All entries at once -/

theorem insert_perm (key : String) (value : α) (entries : List (String × α)) :
    (insert key value entries).Perm ((key, value) :: erase key entries) := by
  induction entries with
  | nil => exact List.Perm.refl _
  | cons entry rest ih =>
    obtain ⟨k, v⟩ := entry
    by_cases hk : k = key
    · subst hk
      rw [insert, if_pos rfl, erase, if_pos rfl]
    · rw [insert, if_neg hk, erase, if_neg hk]
      exact (ih.cons _).trans (.swap ..)

theorem filter_keys_insert (key : String) (value : α) (entries : List (String × α)) :
    (keys (insert key value entries)).filter (· != key) = (keys entries).filter (· != key) := by
  induction entries with
  | nil => simp [insert]
  | cons entry rest ih =>
    obtain ⟨k, v⟩ := entry
    by_cases hk : k = key
    · subst hk
      rw [insert, if_pos rfl, keys_cons, keys_cons]
    · rw [insert, if_neg hk, keys_cons, keys_cons, List.filter_cons, List.filter_cons, ih]

theorem filter_keys_erase (key : String) (entries : List (String × α)) :
    (keys (erase key entries)).filter (· != key) = (keys entries).filter (· != key) := by
  induction entries with
  | nil => rfl
  | cons entry rest ih =>
    obtain ⟨k, v⟩ := entry
    by_cases hk : k = key
    · subst hk
      rw [erase, if_pos rfl, keys_cons, List.filter_cons_of_neg (by simp)]
    · rw [erase, if_neg hk, keys_cons, keys_cons, List.filter_cons, List.filter_cons, ih]

theorem perm_cons_erase {key : String} {value : α} {entries : List (String × α)}
    (h : get? key entries = some value) : entries.Perm ((key, value) :: erase key entries) := by
  have hp := insert_perm key value entries
  rwa [insert_get?_self h] at hp

/-! ### Distinct keys -/

/-- A removal keeps the entries of the other keys. -/
theorem erase_eq_filter {key : String} : ∀ {entries : List (String × α)},
    (keys entries).Nodup → erase key entries = entries.filter (·.1 != key) := by
  intro entries
  induction entries with
  | nil => intro _; rfl
  | cons entry rest ih =>
    intro h
    obtain ⟨k, v⟩ := entry
    rw [keys_cons, List.nodup_cons] at h
    by_cases hk : k = key
    · subst hk
      rw [erase, if_pos rfl, List.filter_cons_of_neg (by simp), List.filter_eq_self.mpr]
      intro entry he
      rw [bne_iff_ne]
      intro hkey
      have hmem : entry.1 ∈ keys rest := List.mem_map_of_mem he
      exact h.1 (hkey ▸ hmem)
    · rw [erase, if_neg hk, ih h.2, List.filter_cons_of_pos (by simpa using hk)]

theorem nodup_erase {key : String} {entries : List (String × α)} (h : (keys entries).Nodup) :
    (keys (erase key entries)).Nodup := by
  rw [keys_erase]; exact h.erase _

theorem nodup_insert {key : String} {value : α} {entries : List (String × α)}
    (h : (keys entries).Nodup) : (keys (insert key value entries)).Nodup := by
  have hp : (keys (insert key value entries)).Perm (key :: (keys entries).erase key) := by
    have := (insert_perm key value entries).map Prod.fst
    rwa [List.map_cons, show (erase key entries).map Prod.fst = _ from keys_erase key entries]
      at this
  rw [hp.nodup_iff, List.nodup_cons]
  exact ⟨h.not_mem_erase, h.erase _⟩

/-- Insertion one after the other makes distinct keys, whatever is inserted. -/
theorem nodup_ofList (entries : List (String × α)) : (keys (ofList entries)).Nodup := by
  have hfold : ∀ items found : List (String × α), (keys found).Nodup →
      (keys (items.foldl (fun found item => insert item.1 item.2 found) found)).Nodup := by
    intro items
    induction items with
    | nil => intro found h; exact h
    | cons item items ih => intro found h; exact ih _ (nodup_insert h)
  exact hfold entries [] List.nodup_nil

theorem foldl_insert_of_nodup : ∀ (items entries : List (String × α)),
    (keys (entries ++ items)).Nodup →
      items.foldl (fun found item => insert item.1 item.2 found) entries = entries ++ items := by
  intro items
  induction items with
  | nil => intro entries _; rw [List.foldl_nil, List.append_nil]
  | cons item items ih =>
    intro entries h
    have hnew : get? item.1 entries = none := by
      rw [get?_eq_none_iff]
      rw [keys_append, keys_cons] at h
      exact fun hm => (List.nodup_append.mp h).2.2 _ hm _ List.mem_cons_self rfl
    rw [List.foldl_cons, insert_of_get?_eq_none _ hnew, ih, List.append_assoc]
    · rfl
    · rwa [List.append_assoc]

theorem ofList_of_nodup {entries : List (String × α)} (h : (keys entries).Nodup) :
    ofList entries = entries := foldl_insert_of_nodup entries [] h

/-! ### The last entry under a key -/

theorem exists_last_of_mem_keys {key : String} {entries : List (String × α)}
    (h : key ∈ keys entries) :
    ∃ before value after, entries = before ++ (key, value) :: after ∧ key ∉ keys after := by
  induction entries with
  | nil => exact absurd h List.not_mem_nil
  | cons entry rest ih =>
    by_cases hr : key ∈ keys rest
    · obtain ⟨before, value, after, rfl, hlast⟩ := ih hr
      exact ⟨entry :: before, value, after, rfl, hlast⟩
    · obtain rfl := (List.mem_cons.mp h).resolve_right hr
      exact ⟨[], entry.2, rest, rfl, hr⟩

theorem get?_foldl_insert_of_not_mem {key : String} : ∀ {items : List (String × α)},
    key ∉ keys items → ∀ entries : List (String × α),
      get? key (items.foldl (fun found item => insert item.1 item.2 found) entries) =
        get? key entries := by
  intro items
  induction items with
  | nil => intro _ entries; rfl
  | cons item items ih =>
    intro h entries
    rw [keys_cons, List.mem_cons, not_or] at h
    rw [List.foldl_cons, ih h.2, get?_insert_of_ne (Ne.symm h.1)]

/-- Of the pairs with one key the last one is found. -/
theorem get?_ofList_of_not_mem {key : String} {after : List (String × α)} (h : key ∉ keys after)
    (before : List (String × α)) (value : α) :
    get? key (ofList (before ++ (key, value) :: after)) = some value := by
  rw [ofList, List.foldl_append, List.foldl_cons, get?_foldl_insert_of_not_mem h, get?_insert_self]

/-! ### Mapped values -/

theorem keys_map {β : Type} (f : α → β) (entries : List (String × α)) :
    keys (entries.map fun entry => (entry.1, f entry.2)) = keys entries := by
  rw [keys, keys, List.map_map]
  rfl

theorem get?_map {β : Type} (f : α → β) (key : String) (entries : List (String × α)) :
    get? key (entries.map fun entry => (entry.1, f entry.2)) = (get? key entries).map f := by
  induction entries with
  | nil => rfl
  | cons entry rest ih =>
    obtain ⟨k, a⟩ := entry
    rw [List.map_cons]
    by_cases hk : k = key
    · rw [hk, get?_cons_self, get?_cons_self]
      rfl
    · rw [get?_cons_of_ne hk, get?_cons_of_ne hk, ih]

/-! ### One list after another -/

theorem get?_append_of_not_mem {key : String} {first : List (String × α)} (h : key ∉ keys first)
    (second : List (String × α)) : get? key (first ++ second) = get? key second := by
  induction first with
  | nil => rfl
  | cons entry rest ih =>
    obtain ⟨k, v⟩ := entry
    rw [keys_cons, List.mem_cons, not_or] at h
    rw [List.cons_append, get?_cons_of_ne (Ne.symm h.1), ih h.2]

/-- An insertion under a key that the first list does not have goes into the second one. -/
theorem insert_append_of_not_mem {key : String} {first : List (String × α)}
    (h : key ∉ keys first) (value : α) (second : List (String × α)) :
    insert key value (first ++ second) = first ++ insert key value second := by
  induction first with
  | nil => rfl
  | cons entry rest ih =>
    obtain ⟨k, v⟩ := entry
    rw [keys_cons, List.mem_cons, not_or] at h
    rw [List.cons_append, insert, if_neg (Ne.symm h.1), ih h.2, List.cons_append]

end RecordQuery.Assoc

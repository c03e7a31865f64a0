import RecordQuery.Value.Basic

/-!
# Dotted keys of patterns

A key `a.b` of a pattern stands for the key `b` of a pattern under `a`.  `Pattern.expand` writes
such keys out; chains with a common beginning are merged.

* `Pattern.keyPath`: the segments of a key; an operator is its own single segment.
* `Pattern.expand`: the pattern with its own dotted keys written out.
* `Value.weight`: the number of segments of all keys of a pattern, those of the patterns inside it
  and inside its arrays included.
* `Pattern.weight_expand_le`: writing dotted keys out does not increase the weight.
-/

namespace RecordQuery

namespace Pattern

/-- The segments of a key; an operator is its own single segment. -/
def keyPath (key : String) : List String :=
  if Path.hasSigil key then [key] else Path.segments key

/-- Whether a key is to be written out as a path. -/
def isChain (key : String) : Bool := Path.isDotted key && !Path.hasSigil key

end Pattern

mutual

/-- The number of segments of all keys of the patterns in a value. -/
def Value.weight : Value → Nat
  | .array items => Value.weightItems items
  | .record entries => Value.weightEntries entries
  | _ => 0

/-- The weight of a list of values. -/
def Value.weightItems : List Value → Nat
  | [] => 0
  | item :: items => Value.weight item + Value.weightItems items

/-- The weight of a pattern. -/
def Value.weightEntries : List (String × Value) → Nat
  | [] => 0
  | (key, value) :: entries =>
    (Pattern.keyPath key).length + Value.weight value + Value.weightEntries entries

end

namespace Pattern

mutual

/--
Merges a value in at a key: a record into the record that is already there, key by key; anything
else takes the place of what is there.
-/
def mergeLeaf (target : Entries) (key : String) : Value → Entries
  | .record incoming =>
    match Assoc.get? key target with
    | some (.record existing) => Assoc.insert key (.record (mergeAll existing incoming)) target
    | _ => Assoc.insert key (.record incoming) target
  | value => Assoc.insert key value target

/-- Merges entries in, one after the other. -/
def mergeAll (target : Entries) : List (String × Value) → Entries
  | [] => target
  | (key, value) :: rest => mergeAll (mergeLeaf target key value) rest

end

/-- Merges a value in at the end of a path; what is no record on the way there gives way to one. -/
def mergeAt (target : Entries) (value : Value) : List String → Entries
  | [] => target
  | [key] => mergeLeaf target key value
  | key :: path =>
    Assoc.insert key (.record (mergeAt (Entries.inner key target) value path)) target

/-- Merges entries in, their keys taken as paths. -/
def mergeChains (target : Entries) : List (String × Value) → Entries
  | [] => target
  | (key, value) :: rest => mergeChains (mergeAt target value (keyPath key)) rest

/-- A pattern with its own dotted keys written out; one without such keys is left alone. -/
def expand (pattern : Entries) : Entries :=
  if pattern.any fun entry => isChain entry.1 then mergeChains [] pattern else pattern

/-- A value with its own dotted keys written out if it is a record. -/
def expandValue : Value → Value
  | .record entries => .record (expand entries)
  | v => v

/-! ## Weights -/

open Value (weight weightItems weightEntries)

theorem splitOn_ne_nil {α : Type} (isMark : α → Bool) (xs : List α) :
    Text.splitOn isMark xs ≠ [] := by
  cases xs with
  | nil => simp [Text.splitOn]
  | cons x xs =>
    rw [Text.splitOn]
    split
    · simp
    · split <;> simp

theorem not_isMark_of_mem_splitOn {α : Type} {isMark : α → Bool} {xs part : List α} {x : α}
    (h : part ∈ Text.splitOn isMark xs) (hx : x ∈ part) : isMark x = false := by
  induction xs generalizing part with
  | nil =>
    simp only [Text.splitOn, List.mem_singleton] at h
    simp [h] at hx
  | cons y ys ih =>
    rw [Text.splitOn] at h
    split at h
    · next hs => exact absurd hs (splitOn_ne_nil _ _)
    · next head tail hs =>
      rw [hs] at ih
      split at h
      · rcases List.mem_cons.1 h with rfl | h
        · simp at hx
        · exact ih h hx
      · next hy =>
        rcases List.mem_cons.1 h with rfl | h
        · rcases List.mem_cons.1 hx with rfl | hx
          · simpa using hy
          · exact ih (List.mem_cons_self ..) hx
        · exact ih (List.mem_cons_of_mem _ h) hx

theorem splitOn_eq_singleton {α : Type} {isMark : α → Bool} {xs : List α}
    (h : ∀ x ∈ xs, isMark x = false) : Text.splitOn isMark xs = [xs] := by
  induction xs with
  | nil => rfl
  | cons x xs ih =>
    rw [Text.splitOn, ih fun y hy => h y (List.mem_cons_of_mem _ hy)]
    simp [h x (List.mem_cons_self ..)]

theorem splitOn_append {α : Type} {isMark : α → Bool} {mark : α} (h : isMark mark = true)
    (xs ys : List α) :
    Text.splitOn isMark (xs ++ mark :: ys) = Text.splitOn isMark xs ++ Text.splitOn isMark ys := by
  induction xs with
  | nil =>
    obtain ⟨part, parts, hp⟩ := List.exists_cons_of_ne_nil (splitOn_ne_nil isMark ys)
    simp [Text.splitOn, hp, h]
  | cons x xs ih =>
    obtain ⟨part, parts, hp⟩ := List.exists_cons_of_ne_nil (splitOn_ne_nil isMark xs)
    rw [List.cons_append, Text.splitOn, ih, Text.splitOn, hp]
    simp only [List.cons_append]
    split <;> rfl

theorem keyPath_ne_nil (key : String) : keyPath key ≠ [] := by
  unfold keyPath Path.segments
  split
  · simp
  · simp [splitOn_ne_nil]

theorem length_keyPath_pos (key : String) : 0 < (keyPath key).length :=
  List.length_pos_iff.2 (keyPath_ne_nil key)

/-- The segments of a key are not divided further. -/
theorem length_keyPath_of_mem {key segment : String} (h : segment ∈ keyPath key) :
    (keyPath segment).length = 1 := by
  by_cases hs : Path.hasSigil segment = true
  · simp [keyPath, hs]
  · rw [keyPath] at h
    split at h
    · next hk =>
      simp only [List.mem_singleton] at h
      subst h
      exact absurd hk hs
    · obtain ⟨part, hpart, rfl⟩ := List.mem_map.1 h
      have hsplit : Text.splitOn (fun c => c == '.') part = [part] :=
        splitOn_eq_singleton fun c hc => by
          have := not_isMark_of_mem_splitOn hpart hc
          simpa using this
      simp [keyPath, hs, Path.segments, hsplit]

theorem weight_le_of_mem {items : List Value} {item : Value} (h : item ∈ items) :
    weight item ≤ weightItems items := by
  induction items with
  | nil => simp at h
  | cons x xs ih =>
    rw [weightItems]
    rcases List.mem_cons.1 h with rfl | h
    · omega
    · have := ih h
      omega

theorem weightEntries_insert_of_get? {key : String} {old : Value} {entries : Entries}
    (h : Assoc.get? key entries = some old) (value : Value) :
    weightEntries (Assoc.insert key value entries) + weight old =
      weightEntries entries + weight value := by
  induction entries with
  | nil => simp [Assoc.get?] at h
  | cons entry rest ih =>
    obtain ⟨k, v⟩ := entry
    rw [Assoc.get?] at h
    rw [Assoc.insert]
    split at h
    · next hk =>
      simp only [Option.some.injEq] at h
      subst h
      simp only [hk, if_true, weightEntries]
      omega
    · next hk =>
      have := ih h
      simp only [hk, if_false, weightEntries]
      omega

theorem weightEntries_insert_of_get?_eq_none {key : String} {entries : Entries}
    (h : Assoc.get? key entries = none) (value : Value) :
    weightEntries (Assoc.insert key value entries) =
      weightEntries entries + (keyPath key).length + weight value := by
  induction entries with
  | nil => simp only [Assoc.insert, weightEntries]; omega
  | cons entry rest ih =>
    obtain ⟨k, v⟩ := entry
    rw [Assoc.get?] at h
    rw [Assoc.insert]
    split at h
    · simp at h
    · next hk =>
      have := ih h
      simp only [hk, if_false, weightEntries]
      omega

theorem weightEntries_insert_le (key : String) (value : Value) (entries : Entries) :
    weightEntries (Assoc.insert key value entries) ≤
      weightEntries entries + (keyPath key).length + weight value := by
  cases h : Assoc.get? key entries with
  | none => exact Nat.le_of_eq (weightEntries_insert_of_get?_eq_none h value)
  | some old =>
    have := weightEntries_insert_of_get? h value
    omega

mutual

theorem weightEntries_mergeLeaf_le (target : Entries) (key : String) : ∀ value : Value,
    weightEntries (mergeLeaf target key value) ≤
      weightEntries target + (keyPath key).length + weight value
  | .record incoming => by
    rw [mergeLeaf]
    split
    · next existing h =>
      have h₁ := weightEntries_insert_of_get? h (.record (mergeAll existing incoming))
      have h₂ := weightEntries_mergeAll_le existing incoming
      simp only [weight] at h₁ ⊢
      omega
    · exact weightEntries_insert_le ..
  | .undefined => by rw [mergeLeaf]; exact weightEntries_insert_le ..; simp
  | .null => by rw [mergeLeaf]; exact weightEntries_insert_le ..; simp
  | .bool _ => by rw [mergeLeaf]; exact weightEntries_insert_le ..; simp
  | .number _ => by rw [mergeLeaf]; exact weightEntries_insert_le ..; simp
  | .string _ => by rw [mergeLeaf]; exact weightEntries_insert_le ..; simp
  | .date _ => by rw [mergeLeaf]; exact weightEntries_insert_le ..; simp
  | .binary _ => by rw [mergeLeaf]; exact weightEntries_insert_le ..; simp
  | .array _ => by rw [mergeLeaf]; exact weightEntries_insert_le ..; simp
  | .function _ => by rw [mergeLeaf]; exact weightEntries_insert_le ..; simp

theorem weightEntries_mergeAll_le (target : Entries) : ∀ incoming : List (String × Value),
    weightEntries (mergeAll target incoming) ≤ weightEntries target + weightEntries incoming
  | [] => by simp [mergeAll, weightEntries]
  | (key, value) :: rest => by
    have h₁ := weightEntries_mergeLeaf_le target key value
    have h₂ := weightEntries_mergeAll_le (mergeLeaf target key value) rest
    simp only [mergeAll, weightEntries]
    omega

end

theorem weightEntries_inner_le (key : String) (target : Entries) (value : Value) :
    weightEntries (Assoc.insert key value target) + weightEntries (Entries.inner key target) ≤
      weightEntries target + (keyPath key).length + weight value := by
  rw [Entries.inner]
  split
  · next nested h =>
    have := weightEntries_insert_of_get? h value
    simp only [weight] at this
    omega
  · have := weightEntries_insert_le key value target
    simp only [weightEntries]
    omega

theorem weightEntries_mergeAt_le (target : Entries) (value : Value) (path : List String)
    (h : ∀ segment ∈ path, (keyPath segment).length = 1) :
    weightEntries (mergeAt target value path) ≤
      weightEntries target + path.length + weight value := by
  induction path generalizing target with
  | nil => rw [mergeAt]; omega
  | cons key path ih =>
    have hkey := h key (List.mem_cons_self ..)
    cases path with
    | nil =>
      have := weightEntries_mergeLeaf_le target key value
      rw [mergeAt]
      simp only [List.length_cons, List.length_nil]
      omega
    | cons next path =>
      have h₁ := ih (Entries.inner key target) fun s hs => h s (List.mem_cons_of_mem _ hs)
      have h₂ := weightEntries_inner_le key target
        (.record (mergeAt (Entries.inner key target) value (next :: path)))
      rw [mergeAt]
      · simp only [weight, List.length_cons] at h₁ h₂ ⊢
        omega
      · simp

theorem weightEntries_mergeChains_le (target : Entries) (pattern : List (String × Value)) :
    weightEntries (mergeChains target pattern) ≤
      weightEntries target + weightEntries pattern := by
  induction pattern generalizing target with
  | nil => simp [mergeChains, weightEntries]
  | cons entry rest ih =>
    obtain ⟨key, value⟩ := entry
    have h₁ := weightEntries_mergeAt_le target value (keyPath key) fun s => length_keyPath_of_mem
    have h₂ := ih (mergeAt target value (keyPath key))
    simp only [mergeChains, weightEntries]
    omega

/-- Writing dotted keys out does not increase the weight. -/
theorem weight_expand_le (pattern : Entries) :
    weightEntries (expand pattern) ≤ weightEntries pattern := by
  unfold expand
  split
  · have := weightEntries_mergeChains_le [] pattern
    simpa [weightEntries] using this
  · exact Nat.le_refl _

end Pattern

end RecordQuery

import RecordQuery.Proofs.Binary64.Rational
import RecordQuery.Proofs.Transform.Arrays

/-!
# Nested arrays

An array can be taken apart a number of levels down or all the way, and it can be cut into pieces of
a size.

* `Items.induct`: induction over the arrays in a list and the rest of the list.
* `Items.flatten_flatten`: levels taken apart one after another add up.
* `Items.levels`, `Items.flatten_of_levels_le`: a depth that reaches all levels is as good as none.
* `Items.itemAt?`, `Items.leaves`: what indices lead to, and what is not an array, with the indices
  to it.
* `Items.mem_leaves_iff`, `Items.pairwise_leaves`, `Items.map_snd_leaves`: without a depth the
  leaves remain, all of them and in order.
* `Items.flatten_chunks`, `Items.length_of_mem_dropLast_chunks`: pieces put together again, and
  their lengths.
* `Items.flatten_chunk`: what the operators make of an array.
-/

namespace RecordQuery

open Binary64 (rational? integer? parts toCount greatestCount)

namespace Items

/-- Induction over a list with what is inside the arrays in it. -/
theorem induct {motive : List Value → Prop} (nil : motive [])
    (leaf : ∀ (item : Value) (items : List Value), item.array? = none → motive items →
      motive (item :: items))
    (array : ∀ inner items : List Value, motive inner → motive items →
      motive (.array inner :: items)) : ∀ items : List Value, motive items
  | [] => nil
  | .array inner :: items =>
    array inner items (induct nil leaf array inner) (induct nil leaf array items)
  | .undefined :: items => leaf _ items rfl (induct nil leaf array items)
  | .null :: items => leaf _ items rfl (induct nil leaf array items)
  | .bool _ :: items => leaf _ items rfl (induct nil leaf array items)
  | .number _ :: items => leaf _ items rfl (induct nil leaf array items)
  | .string _ :: items => leaf _ items rfl (induct nil leaf array items)
  | .date _ :: items => leaf _ items rfl (induct nil leaf array items)
  | .binary _ :: items => leaf _ items rfl (induct nil leaf array items)
  | .record _ :: items => leaf _ items rfl (induct nil leaf array items)
  | .function _ :: items => leaf _ items rfl (induct nil leaf array items)

/-! ### Levels taken apart -/

theorem flatten_leaf {item : Value} (h : item.array? = none) (items : List Value)
    (depth : Option Nat) : flatten (item :: items) depth = item :: flatten items depth := by
  cases item with
  | array => cases h
  | _ => rw [flatten, flattenItem] <;> simp

@[simp] theorem flatten_array_none (inner items : List Value) :
    flatten (.array inner :: items) none = flatten inner none ++ flatten items none := by
  rw [flatten, flattenItem]

@[simp] theorem flatten_array_zero (inner items : List Value) :
    flatten (.array inner :: items) (some 0) = .array inner :: flatten items (some 0) := by
  rw [flatten, flattenItem] <;> simp

@[simp] theorem flatten_array_succ (inner items : List Value) (depth : Nat) :
    flatten (.array inner :: items) (some (depth + 1)) =
      flatten inner (some depth) ++ flatten items (some (depth + 1)) := by
  rw [flatten, flattenItem]

theorem flatten_append (first second : List Value) (depth : Option Nat) :
    flatten (first ++ second) depth = flatten first depth ++ flatten second depth := by
  induction first with
  | nil => rfl
  | cons item first ih => rw [List.cons_append, flatten, flatten, ih, List.append_assoc]

theorem flatten_eq_self {items : List Value} (h : ∀ item ∈ items, item.array? = none)
    (depth : Option Nat) : flatten items depth = items := by
  induction items with
  | nil => rfl
  | cons item items ih =>
    rw [List.forall_mem_cons] at h
    rw [flatten_leaf h.1, ih h.2]

theorem flatten_zero (items : List Value) : flatten items (some 0) = items := by
  induction items using induct with
  | nil => rfl
  | leaf item items hitem ih => rw [flatten_leaf hitem, ih]
  | array inner items _ ih => rw [flatten_array_zero, ih]

/-- **Levels taken apart one after another add up.** -/
theorem flatten_flatten (items : List Value) (m n : Nat) :
    flatten (flatten items (some m)) (some n) = flatten items (some (m + n)) := by
  induction items using induct generalizing m with
  | nil => rfl
  | leaf item items hitem ih => rw [flatten_leaf hitem, flatten_leaf hitem, flatten_leaf hitem, ih]
  | array inner items hinner ih =>
    cases m with
    | zero => rw [flatten_zero, Nat.zero_add]
    | succ m =>
      rw [flatten_array_succ, flatten_append, hinner, ih, Nat.add_right_comm, flatten_array_succ]

def levels : List Value → Nat
  | [] => 0
  | .array inner :: items => max (levels inner + 1) (levels items)
  | _ :: items => levels items

theorem levels_leaf {item : Value} (h : item.array? = none) (items : List Value) :
    levels (item :: items) = levels items := by
  cases item with
  | array => cases h
  | _ => rw [levels]; simp

/-- A depth that reaches all levels is as good as none. -/
theorem flatten_of_levels_le {items : List Value} {depth : Nat} (h : levels items ≤ depth) :
    flatten items (some depth) = flatten items none := by
  induction items using induct generalizing depth with
  | nil => rfl
  | leaf item items hitem ih =>
    rw [levels_leaf hitem] at h
    rw [flatten_leaf hitem, flatten_leaf hitem, ih h]
  | array inner items hinner ih =>
    rw [levels, Nat.max_le] at h
    obtain ⟨depth, rfl⟩ := Nat.exists_eq_add_of_le' (Nat.le_of_add_left_le h.1)
    rw [flatten_array_succ, flatten_array_none, hinner (by omega), ih h.2]

/-! ### Leaves -/

/-- What indices lead to, each one array further inside. -/
def itemAt? : (indices : List Nat) → Value → Option Value
  | [], v => some v
  | i :: indices, .array items => items[i]?.bind (itemAt? indices)
  | _ :: _, _ => none

/-- What is not an array, with the indices that lead to it; those of the list itself are counted
from a number on. -/
def leaves (first : Nat) : List Value → List (List Nat × Value)
  | [] => []
  | .array inner :: items =>
    (leaves 0 inner).map (fun leaf => (first :: leaf.1, leaf.2)) ++ leaves (first + 1) items
  | item :: items => ([first], item) :: leaves (first + 1) items

theorem leaves_leaf {item : Value} (h : item.array? = none) (first : Nat) (items : List Value) :
    leaves first (item :: items) = ([first], item) :: leaves (first + 1) items := by
  cases item with
  | array => cases h
  | _ => rw [leaves]; simp

/-- Indices lead to a value in a list whose items are counted from a number on. -/
def Leads (first : Nat) (items : List Value) (indices : List Nat) (v : Value) : Prop :=
  ∃ i rest, indices = (first + i) :: rest ∧ itemAt? (i :: rest) (.array items) = some v

theorem leads_zero_iff {items : List Value} {indices : List Nat} {v : Value}
    (h : v.array? = none) : Leads 0 items indices v ↔ itemAt? indices (.array items) = some v := by
  constructor
  · rintro ⟨i, rest, rfl, hv⟩
    rwa [Nat.zero_add]
  · intro hv
    cases indices with
    | nil =>
      obtain rfl : .array items = v := Option.some.inj hv
      cases h
    | cons i rest => exact ⟨i, rest, by rw [Nat.zero_add], hv⟩

theorem leads_cons_iff {first : Nat} {item : Value} {items : List Value} {indices : List Nat}
    {v : Value} : Leads first (item :: items) indices v ↔
      (∃ rest, indices = first :: rest ∧ itemAt? rest item = some v) ∨
        Leads (first + 1) items indices v := by
  constructor
  · rintro ⟨i, rest, rfl, hv⟩
    cases i with
    | zero => exact .inl ⟨rest, rfl, hv⟩
    | succ i => exact .inr ⟨i, rest, by rw [Nat.add_right_comm, Nat.add_assoc], hv⟩
  · rintro (⟨rest, rfl, hv⟩ | ⟨i, rest, rfl, hv⟩)
    · exact ⟨0, rest, rfl, hv⟩
    · exact ⟨i + 1, rest, by rw [Nat.add_right_comm, Nat.add_assoc], hv⟩

theorem itemAt?_leaf {item : Value} (h : item.array? = none) {indices : List Nat} {v : Value} :
    itemAt? indices item = some v ↔ indices = [] ∧ item = v := by
  cases indices with
  | nil => simp [itemAt?]
  | cons i rest =>
    have hnone : itemAt? (i :: rest) item = none := by
      cases item with
      | array => cases h
      | _ => rfl
    simp [hnone]

/-- **The leaves are what is not an array, under the indices that lead to it.** -/
theorem mem_leaves_iff {first : Nat} {items : List Value} {indices : List Nat} {v : Value} :
    (indices, v) ∈ leaves first items ↔ Leads first items indices v ∧ v.array? = none := by
  induction items using induct generalizing first indices v with
  | nil =>
    rw [leaves]
    refine iff_of_false List.not_mem_nil ?_
    rintro ⟨⟨i, rest, -, hv⟩, -⟩
    cases hv
  | leaf item items hitem ih =>
    rw [leaves_leaf hitem, List.mem_cons, ih, leads_cons_iff, or_and_right]
    refine or_congr_left ?_
    simp only [itemAt?_leaf hitem, Prod.mk.injEq]
    constructor
    · rintro ⟨rfl, rfl⟩
      exact ⟨⟨[], rfl, rfl, rfl⟩, hitem⟩
    · rintro ⟨⟨_, rfl, rfl, rfl⟩, -⟩
      exact ⟨rfl, rfl⟩
  | array inner items hinner ih =>
    rw [leaves, List.mem_append, ih, leads_cons_iff, or_and_right]
    refine or_congr_left ?_
    simp only [List.mem_map, Prod.exists, Prod.mk.injEq, hinner]
    constructor
    · rintro ⟨rest, _, ⟨hlead, hleaf⟩, rfl, rfl⟩
      exact ⟨⟨rest, rfl, (leads_zero_iff hleaf).mp hlead⟩, hleaf⟩
    · rintro ⟨⟨rest, rfl, hv⟩, hleaf⟩
      exact ⟨rest, v, ⟨(leads_zero_iff hleaf).mpr hv, hleaf⟩, rfl, rfl⟩

/-- The indices of the leaves are in order. -/
theorem pairwise_leaves (first : Nat) (items : List Value) :
    (leaves first items).Pairwise fun x y => x.1 < y.1 := by
  have hlater : ∀ {items : List Value} {first : Nat} {leaf : List Nat × Value} (rest : List Nat),
      leaf ∈ leaves (first + 1) items → first :: rest < leaf.1 := by
    intro items first leaf rest hleaf
    obtain ⟨⟨i, inside, hindices, -⟩, -⟩ := mem_leaves_iff.mp hleaf
    rw [hindices]
    exact List.cons_lt_cons_iff.mpr (.inl (by omega))
  induction items using induct generalizing first with
  | nil =>
    rw [leaves]
    exact .nil
  | leaf item items hitem ih =>
    rw [leaves_leaf hitem]
    exact .cons (fun leaf hleaf => hlater [] hleaf) (ih _)
  | array inner items hinner ih =>
    rw [leaves]
    refine List.pairwise_append.mpr ⟨?_, ih _, ?_⟩
    · refine (hinner 0).map _ fun x y hxy => ?_
      exact List.cons_lt_cons_iff.mpr (.inr ⟨rfl, hxy⟩)
    · intro x hx y hy
      obtain ⟨leaf, -, rfl⟩ := List.mem_map.mp hx
      exact hlater leaf.1 hy

/-- **Without a depth the leaves remain.** -/
theorem map_snd_leaves (first : Nat) (items : List Value) :
    (leaves first items).map Prod.snd = flatten items none := by
  induction items using induct generalizing first with
  | nil =>
    rw [leaves]
    rfl
  | leaf item items hitem ih => rw [leaves_leaf hitem, List.map_cons, ih, flatten_leaf hitem]
  | array inner items hinner ih =>
    rw [leaves, List.map_append, List.map_map, ih, flatten_array_none, ← hinner 0]
    rfl

theorem array?_of_mem_flatten {items : List Value} {v : Value} (h : v ∈ flatten items none) :
    v.array? = none := by
  rw [← map_snd_leaves 0, List.mem_map] at h
  obtain ⟨leaf, hleaf, rfl⟩ := h
  exact (mem_leaves_iff.mp hleaf).2

/-! ### Pieces -/

theorem flatten_map_array (pieces : List (List Value)) :
    flatten (pieces.map .array) (some 1) = pieces.flatten := by
  induction pieces with
  | nil => rfl
  | cons piece pieces ih =>
    rw [List.map_cons, flatten_array_succ, flatten_zero, ih, List.flatten_cons]

variable {size : Nat}

/-- **The pieces of a list make up the list.** -/
theorem flatten_chunks (hsize : 0 < size) (items : List Value) :
    (chunks size items).flatten = items := by
  induction items using chunks.induct size with
  | case1 items hstop =>
    rw [chunks, dif_pos hstop]
    exact (hstop.resolve_right hsize.ne').symm
  | case2 items hstop ih => rw [chunks, dif_neg hstop, List.flatten_cons, ih, List.take_append_drop]

theorem ne_nil_of_mem_chunks {items piece : List Value} (h : piece ∈ chunks size items) :
    piece ≠ [] := by
  induction items using chunks.induct size with
  | case1 items hstop =>
    rw [chunks, dif_pos hstop] at h
    cases h
  | case2 items hstop ih =>
    rw [chunks, dif_neg hstop] at h
    rcases List.mem_cons.mp h with rfl | h
    · rw [Ne, List.take_eq_nil_iff]
      exact fun hnil => hstop hnil.symm
    · exact ih h

theorem length_le_of_mem_chunks {items piece : List Value} (h : piece ∈ chunks size items) :
    piece.length ≤ size := by
  induction items using chunks.induct size with
  | case1 items hstop =>
    rw [chunks, dif_pos hstop] at h
    cases h
  | case2 items hstop ih =>
    rw [chunks, dif_neg hstop] at h
    rcases List.mem_cons.mp h with rfl | h
    · exact List.length_take_le ..
    · exact ih h

/-- **Every piece but the last is full**, and then the list is longer than a piece. -/
theorem length_of_mem_dropLast_chunks {items piece : List Value}
    (h : piece ∈ (chunks size items).dropLast) : piece.length = size ∧ size < items.length := by
  induction items using chunks.induct size with
  | case1 items hstop =>
    rw [chunks, dif_pos hstop] at h
    cases h
  | case2 items hstop ih =>
    rw [chunks, dif_neg hstop] at h
    by_cases hrest : chunks size (items.drop size) = []
    · rw [hrest] at h
      cases h
    · have hlonger : size < items.length := by
        by_contra hle
        exact hrest (by rw [List.drop_eq_nil_of_le (by omega), chunks, dif_pos (.inl rfl)])
      rw [List.dropLast_cons_of_ne_nil hrest] at h
      rcases List.mem_cons.mp h with rfl | h
      · exact ⟨by rw [List.length_take]; omega, hlonger⟩
      · exact ⟨(ih h).1, hlonger⟩

/-! ### Depths and sizes -/

/-- The depth among the options of a transform is a whole number. -/
def HasDepth (options : Value) (n : Nat) : Prop :=
  ∃ x, options.numberOption? "depth" = some x ∧ integer? x = some (n : ℤ)

/-- There is no depth among the options of a transform, or an infinite one. -/
def Unlimited (options : Value) : Prop :=
  ∀ x, options.numberOption? "depth" = some x → parts x = .infinite false

/-- The size of pieces among the options of a transform; one if there is none. -/
def sizeAt (options : Value) : Float := (options.numberOption? "size").getD 1.0

/-- The whole number below a size; infinite if the size is. -/
def wholeSize (x : Float) : ℕ∞ :=
  match rational? x with
  | some q => (⌊q⌋₊ : ℕ∞)
  | none => ⊤

theorem toCount_of_one_le {x : Float} (h : 1.0 ≤ x) :
    0 < toCount x ∧ (toCount x : ℕ∞) = min (wholeSize x) greatestCount := by
  rcases Binary64.one_le_of_le h with hinfinite | ⟨q, hrational, hq⟩
  · have hnone : rational? x = none := by rw [rational?, hinfinite]
    rw [Binary64.toCount_of_infinite hinfinite, wholeSize, hnone]
    exact ⟨by decide, (min_eq_right le_top).symm⟩
  · have hfloor : 0 < ⌊q⌋₊ := Nat.floor_pos.mpr hq
    rw [Binary64.toCount_of_rational? hrational, wholeSize, hrational]
    exact ⟨Nat.lt_min.mpr ⟨hfloor, by decide⟩, Nat.mono_cast.map_min⟩

variable (functions : Functions)

theorem projected?_flatten (items : List Value) (options : Value) :
    projected? functions items "$flatten" options =
      some (.array (flatten items ((options.numberOption? "depth").map toCount))) :=
  projected?_ofItems rfl rfl rfl rfl

theorem projected?_flatten_of_hasDepth (items : List Value) {options : Value} {n : Nat}
    (h : HasDepth options n) : projected? functions items "$flatten" options =
      some (.array (flatten items (some (min n greatestCount)))) := by
  obtain ⟨x, hx, hn⟩ := h
  rw [projected?_flatten, hx, Option.map_some, Binary64.toCount_of_integer? hn]

theorem projected?_flatten_of_unlimited {items : List Value}
    (hlevels : levels items ≤ greatestCount) {options : Value} (h : Unlimited options) :
    projected? functions items "$flatten" options = some (.array (flatten items none)) := by
  rw [projected?_flatten]
  cases hx : options.numberOption? "depth" with
  | none => rfl
  | some x =>
    rw [Option.map_some, Binary64.toCount_of_infinite (h x hx), if_neg Bool.false_ne_true,
      flatten_of_levels_le hlevels]

theorem projected?_chunk (items : List Value) {options : Value} (h : 1.0 ≤ sizeAt options) :
    projected? functions items "$chunk" options =
      some (.array ((chunks (toCount (sizeAt options)) items).map .array)) :=
  projected?_ofItems rfl rfl rfl (if_pos h)

/-- Saturated depths add up as far as the levels of a list go. -/
theorem flatten_flatten_min {items : List Value} (hlevels : levels items ≤ greatestCount)
    (m n : Nat) :
    flatten (flatten items (some (min m greatestCount))) (some (min n greatestCount)) =
      flatten items (some (min (m + n) greatestCount)) := by
  rw [flatten_flatten]
  by_cases h : m + n ≤ greatestCount
  · rw [Nat.min_eq_left (by omega), Nat.min_eq_left (by omega), Nat.min_eq_left h]
  · rw [flatten_of_levels_le (by omega), flatten_of_levels_le (by omega)]

/-- **Arrays taken apart and cut into pieces.**  Depths of which one is applied after the other add
up.  Without a depth, or with an infinite one, exactly what is not an array remains, in the order of
the indices that lead to it, and nothing changes the second time.  Pieces of a size from one on,
whatever the items are, make up the array when one level is taken apart again; none of them is
empty, and all but the last are as long as the whole number of the size says.  The length of the
array and its levels are such as a word counts, so that the greatest depth and the greatest size are
no limits for it. -/
theorem flatten_chunk {items : List Value} (hlength : items.length ≤ greatestCount)
    (hlevels : levels items ≤ greatestCount) :
    let made? (items : List Value) := projected? functions items
    (∀ (first second both : Value) (m n : Nat), HasDepth first m → HasDepth second n →
      HasDepth both (m + n) →
      ∃ outer flat : List Value, made? items "$flatten" first = some (.array outer) ∧
        made? outer "$flatten" second = some (.array flat) ∧
        made? items "$flatten" both = some (.array flat)) ∧
    (∀ options, Unlimited options →
      ∃ flat : List Value, made? items "$flatten" options = some (.array flat) ∧
        (∀ v ∈ flat, v.array? = none) ∧
        made? flat "$flatten" options = some (.array flat) ∧
        ∃ leaves : List (List Nat × Value), leaves.map Prod.snd = flat ∧
          (leaves.Pairwise fun x y => x.1 < y.1) ∧
          ∀ indices v, (indices, v) ∈ leaves ↔
            itemAt? indices (.array items) = some v ∧ v.array? = none) ∧
    ∀ options, 1.0 ≤ sizeAt options →
      ∃ pieces : List (List Value), made? items "$chunk" options =
          some (.array (pieces.map .array)) ∧
        (∀ inner, HasDepth inner 1 →
          made? (pieces.map .array) "$flatten" inner = some (.array items)) ∧
        (∀ piece ∈ pieces, piece ≠ [] ∧ (piece.length : ℕ∞) ≤ wholeSize (sizeAt options)) ∧
        ∀ piece ∈ pieces.dropLast, (piece.length : ℕ∞) = wholeSize (sizeAt options) := by
  intro made?
  refine ⟨fun first second both m n hfirst hsecond hboth => ?_, fun options h => ?_,
    fun options h => ?_⟩
  · refine ⟨_, _, projected?_flatten_of_hasDepth functions items hfirst,
      projected?_flatten_of_hasDepth functions _ hsecond, ?_⟩
    rw [flatten_flatten_min hlevels]
    exact projected?_flatten_of_hasDepth functions items hboth
  · have hflat : ∀ v ∈ flatten items none, v.array? = none := fun v hv => array?_of_mem_flatten hv
    refine ⟨_, projected?_flatten_of_unlimited functions hlevels h, hflat, ?_, leaves 0 items,
      map_snd_leaves 0 items, pairwise_leaves 0 items, fun indices v => ?_⟩
    · rw [show made? _ "$flatten" options = _ from projected?_flatten functions _ options,
        flatten_eq_self hflat]
    · rw [mem_leaves_iff]
      exact and_congr_left leads_zero_iff
  · obtain ⟨hpos, hwhole⟩ := toCount_of_one_le h
    refine ⟨_, projected?_chunk functions items h, fun inner hinner => ?_, fun piece hpiece => ?_,
      fun piece hpiece => ?_⟩
    · rw [show made? _ "$flatten" inner = _ from projected?_flatten_of_hasDepth functions _ hinner,
        show min 1 greatestCount = 1 by decide, flatten_map_array, flatten_chunks hpos]
    · refine ⟨ne_nil_of_mem_chunks hpiece, ?_⟩
      calc (piece.length : ℕ∞) ≤ toCount (sizeAt options) := by
            exact_mod_cast length_le_of_mem_chunks hpiece
        _ ≤ wholeSize (sizeAt options) := hwhole ▸ min_le_left ..
    · obtain ⟨hfull, hlonger⟩ := length_of_mem_dropLast_chunks hpiece
      rw [hfull, hwhole]
      rcases min_choice (wholeSize (sizeAt options)) greatestCount with hmin | hmin
      · exact hmin
      · -- then the list would be longer than a word counts
        rw [hmin] at hwhole
        have hgreatest : toCount (sizeAt options) = greatestCount := by exact_mod_cast hwhole
        omega

/-- An array with another one two levels down: taken apart in two steps, all the way, and after it
has been cut into pieces of one and a half. -/
theorem flatten_chunk_nested :
    let functions : Functions := fun _ _ => .undefined
    let items : List Value := [.null, .array [.bool true, .array [.bool false]]]
    let depth (x : Float) : Value := .record [("depth", .number x)]
    let size : Value := .record [("size", .number 1.5)]
    (items.length ≤ greatestCount ∧ levels items ≤ greatestCount) ∧
      (HasDepth (depth 1.0) 1 ∧ HasDepth (depth 2.0) (1 + 1)) ∧ Unlimited (.record []) ∧
      1.0 ≤ sizeAt size ∧
      (∃ outer : List Value,
        projected? functions items "$flatten" (depth 1.0) = some (.array outer) ∧
        projected? functions outer "$flatten" (depth 1.0) =
          projected? functions items "$flatten" (depth 2.0)) ∧
      (∃ flat : List Value,
        projected? functions items "$flatten" (.record []) = some (.array flat) ∧
        ∀ v ∈ flat, v.array? = none) ∧
      ∃ pieces : List (List Value),
        projected? functions items "$chunk" size = some (.array (pieces.map .array)) ∧
        projected? functions (pieces.map .array) "$flatten" (depth 1.0) = some (.array items) ∧
        ∀ piece ∈ pieces, piece ≠ [] := by
  intro functions items depth size
  have hlength : items.length ≤ greatestCount := by decide
  have hlevels : levels items ≤ greatestCount := by simp [items, levels, greatestCount]
  have hone : HasDepth (depth 1.0) 1 := ⟨1.0, rfl, by decide⟩
  have htwo : HasDepth (depth 2.0) (1 + 1) := ⟨2.0, rfl, by decide⟩
  have hunlimited : Unlimited (.record []) := fun x hx => by cases hx
  have hsize : 1.0 ≤ sizeAt size := by decide
  obtain ⟨hsteps, hall, hpieces⟩ := flatten_chunk functions hlength hlevels
  obtain ⟨outer, flat, houter, hinner, hboth⟩ := hsteps _ _ _ 1 1 hone hone htwo
  obtain ⟨flat', hflat, hleaves, -⟩ := hall _ hunlimited
  obtain ⟨pieces, hmade, hjoined, hfilled, -⟩ := hpieces size hsize
  exact ⟨⟨hlength, hlevels⟩, ⟨hone, htwo⟩, hunlimited, hsize,
    ⟨outer, houter, hinner.trans hboth.symm⟩, ⟨flat', hflat, hleaves⟩,
    ⟨pieces, hmade, hjoined _ hone, fun piece hpiece => (hfilled piece hpiece).1⟩⟩

end Items

end RecordQuery

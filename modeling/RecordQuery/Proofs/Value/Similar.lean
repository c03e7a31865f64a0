import Mathlib.Data.List.Perm.Subperm
import RecordQuery.Proofs.Binary64.Equality
import RecordQuery.Proofs.Value.Parts
import RecordQuery.Value.Equality

/-!
# Similar values

Two values are similar when they are built alike: arrays item by item, records field by field
without regard to the order of the keys, and doubles up to a given relation.

* `Value.Similar r`: similarity with doubles related by `r`; it is reflexive, symmetric and
  transitive with `r`.
* `Value.beq_iff_similar`: for well-formed values, `v == w` is similarity up to the equality of
  doubles.
* `Value.Alike`: similarity with all NaN equal, an equivalence on all values.
* `Similar.get?`, `Similar.setField`, `Similar.deleteField`: no lookup tells similar values apart,
  and equal updates keep them similar.
-/

namespace RecordQuery.Value

/-- The same kind and contents, with doubles related by `r` and records as unordered maps. -/
inductive Similar (r : Float → Float → Prop) : Value → Value → Prop
  | undefined : Similar r .undefined .undefined
  | null : Similar r .null .null
  | bool (b : Bool) : Similar r (.bool b) (.bool b)
  | number {x y : Float} : r x y → Similar r (.number x) (.number y)
  | string (s : String) : Similar r (.string s) (.string s)
  | date (t : Instant) : Similar r (.date t) (.date t)
  | binary (bytes : List UInt8) : Similar r (.binary bytes) (.binary bytes)
  | array {xs ys : List Value} : (∀ i : Nat, Option.Rel (Similar r) xs[i]? ys[i]?) →
      Similar r (.array xs) (.array ys)
  | record {xs ys : Entries} :
      (∀ key, Option.Rel (Similar r) (Assoc.get? key xs) (Assoc.get? key ys)) →
      Similar r (.record xs) (.record ys)
  | function (name : String) : Similar r (.function name) (.function name)

/-- Similar with all NaN equal to each other. -/
abbrev Alike : Value → Value → Prop := Similar fun x y => Binary64.agree x y = true

variable {r : Float → Float → Prop}

/-! ### Related options -/

section Options

variable {α : Type} {R : α → α → Prop} {a b c : Option α}

theorem rel_refl (h : ∀ x, a = some x → R x x) : Option.Rel R a a := by
  cases a with
  | none => exact .none
  | some x => exact .some (h x rfl)

theorem rel_symm (h : Option.Rel R a b) (hs : ∀ x y, a = some x → R x y → R y x) :
    Option.Rel R b a := by
  cases h with
  | none => exact .none
  | some h => exact .some (hs _ _ rfl h)

theorem rel_trans (h : Option.Rel R a b) (g : Option.Rel R b c)
    (ht : ∀ x y z, a = some x → R x y → R y z → R x z) : Option.Rel R a c := by
  cases h with
  | none => exact g
  | some h => cases g with | some g => exact .some (ht _ _ _ rfl h g)

theorem rel_imp {S : α → α → Prop} (h : Option.Rel R a b)
    (hs : ∀ x y, a = some x → R x y → S x y) : Option.Rel S a b := by
  cases h with
  | none => exact .none
  | some h => exact .some (hs _ _ rfl h)

theorem rel_congr {S : α → α → Prop} (hs : ∀ x y, a = some x → b = some y → (R x y ↔ S x y)) :
    Option.Rel R a b ↔ Option.Rel S a b := by
  constructor
  · intro h
    cases h with
    | none => exact .none
    | some h => exact .some ((hs _ _ rfl rfl).mp h)
  · intro h
    cases h with
    | none => exact .none
    | some h => exact .some ((hs _ _ rfl rfl).mpr h)

theorem rel_eq_none_iff (h : Option.Rel R a b) : a = none ↔ b = none := by
  cases h <;> simp

end Options

/-! ### An equivalence -/

theorem Similar.refl (hr : ∀ x, r x x) : ∀ v : Value, Similar r v v := by
  intro v
  induction v using Value.induct with
  | scalar v ha hrec =>
    cases v with
    | number x => exact .number (hr x)
    | array => cases ha
    | record => cases hrec
    | _ => constructor
  | array items ih =>
    exact .array fun i => rel_refl fun item hi => ih item (List.mem_of_getElem? hi)
  | record entries ih =>
    exact .record fun key => rel_refl fun value hk => ih _ (Assoc.mem_of_get? hk)

theorem Similar.symm (hr : ∀ {x y}, r x y → r y x) : ∀ {v w : Value}, Similar r v w →
    Similar r w v := by
  intro v
  induction v using Value.induct with
  | scalar v ha hrec =>
    intro w h
    cases h with
    | number h => exact .number (hr h)
    | array => cases ha
    | record => cases hrec
    | _ => constructor
  | array items ih =>
    intro w h
    cases h with
    | array h =>
      exact .array fun i => rel_symm (h i) fun item _ hi => ih item (List.mem_of_getElem? hi)
  | record entries ih =>
    intro w h
    cases h with
    | record h =>
      exact .record fun key => rel_symm (h key) fun value _ hk => ih _ (Assoc.mem_of_get? hk)

theorem Similar.trans (hr : ∀ {x y z}, r x y → r y z → r x z) : ∀ {u v w : Value},
    Similar r u v → Similar r v w → Similar r u w := by
  intro u
  induction u using Value.induct with
  | scalar u ha hrec =>
    intro v w h g
    cases h with
    | number h => cases g with | number g => exact .number (hr h g)
    | array => cases ha
    | record => cases hrec
    | _ => exact g
  | array items ih =>
    intro v w h g
    cases h with
    | array h =>
      cases g with
      | array g =>
        exact .array fun i => rel_trans (h i) (g i)
          fun item _ _ hi => ih item (List.mem_of_getElem? hi)
  | record entries ih =>
    intro v w h g
    cases h with
    | record h =>
      cases g with
      | record g =>
        exact .record fun key => rel_trans (h key) (g key)
          fun value _ _ hk => ih _ (Assoc.mem_of_get? hk)

theorem Alike.refl (v : Value) : Alike v v := Similar.refl Binary64.agree_refl v

theorem Alike.trans {u v w : Value} (h : Alike u v) (g : Alike v w) : Alike u w := by
  refine Similar.trans ?_ h g
  intro x y z hxy hyz
  exact Binary64.agree_trans hxy hyz

theorem Similar.mono {r' : Float → Float → Prop} (hr : ∀ {x y}, r x y → r' x y) :
    ∀ {v w : Value}, Similar r v w → Similar r' v w := by
  intro v
  induction v using Value.induct with
  | scalar v ha hrec =>
    intro w h
    cases h with
    | number h => exact .number (hr h)
    | array => cases ha
    | record => cases hrec
    | _ => constructor
  | array items ih =>
    intro w h
    cases h with
    | array h =>
      exact .array fun i => rel_imp (h i) fun item _ hi => ih item (List.mem_of_getElem? hi)
  | record entries ih =>
    intro w h
    cases h with
    | record h =>
      exact .record fun key => rel_imp (h key) fun value _ hk => ih _ (Assoc.mem_of_get? hk)

/-! ### Strict equality -/

theorem beqItems_iff : ∀ {xs ys : List Value},
    beqItems xs ys = true ↔ ∀ i : Nat, Option.Rel (fun x y => beq x y = true) xs[i]? ys[i]? := by
  intro xs
  induction xs with
  | nil =>
    intro ys
    cases ys with
    | nil => exact ⟨fun _ _ => .none, fun _ => rfl⟩
    | cons y ys => exact ⟨fun h => (by cases h), fun h => (by have h0 := h 0; cases h0)⟩
  | cons x xs ih =>
    intro ys
    cases ys with
    | nil => exact ⟨fun h => (by cases h), fun h => (by have h0 := h 0; cases h0)⟩
    | cons y ys =>
      rw [beqItems, Bool.and_eq_true, ih]
      constructor
      · rintro ⟨hxy, h⟩ i
        cases i with
        | zero => exact .some hxy
        | succ i => exact h i
      · intro h
        refine ⟨?_, fun i => h (i + 1)⟩
        have h0 := h 0
        cases h0 with
        | some hxy => exact hxy

theorem entriesIn_iff {ys : Entries} : ∀ {xs : Entries},
    entriesIn xs ys = true ↔
      ∀ entry ∈ xs, ∃ y, Assoc.get? entry.1 ys = some y ∧ beq entry.2 y = true := by
  intro xs
  induction xs with
  | nil => simp [entriesIn]
  | cons entry rest ih =>
    obtain ⟨key, x⟩ := entry
    rw [entriesIn, Bool.and_eq_true, ih, List.forall_mem_cons]
    cases Assoc.get? key ys <;> simp

/-- Of two records of one length with distinct keys, none of whose keys is missing in the second,
the first has all keys of the second. -/
theorem keys_subset_of_length_eq {xs ys : Entries} (hx : (Assoc.keys xs).Nodup)
    (hlen : xs.length = ys.length) (h : ∀ key ∈ Assoc.keys xs, key ∈ Assoc.keys ys) :
    ∀ key ∈ Assoc.keys ys, key ∈ Assoc.keys xs := by
  have hlen' : (Assoc.keys ys).length ≤ (Assoc.keys xs).length := by
    simp only [Assoc.keys, List.length_map]
    omega
  have hp := (List.subperm_of_subset hx h).perm_of_length_le hlen'
  exact fun key hk => hp.mem_iff.mpr hk

theorem record_beq_iff {xs ys : Entries} (hx : (Assoc.keys xs).Nodup)
    (hy : (Assoc.keys ys).Nodup) :
    beq (.record xs) (.record ys) = true ↔
      ∀ key, Option.Rel (fun x y => beq x y = true) (Assoc.get? key xs) (Assoc.get? key ys) := by
  rw [beq, Bool.and_eq_true, beq_iff_eq, entriesIn_iff]
  constructor
  · rintro ⟨hlen, h⟩ key
    have hsub := keys_subset_of_length_eq hx hlen fun k hk => by
      obtain ⟨entry, he, rfl⟩ := List.mem_map.mp hk
      obtain ⟨y, hg, -⟩ := h entry he
      exact Assoc.mem_keys_of_mem (Assoc.mem_of_get? hg)
    cases hk : Assoc.get? key xs with
    | some x =>
      obtain ⟨y, hg, hxy⟩ := h _ (Assoc.mem_of_get? hk)
      rw [show Assoc.get? key ys = some y from hg]
      exact .some hxy
    | none =>
      rw [Assoc.get?_eq_none_iff] at hk
      rw [Assoc.get?_eq_none_iff.mpr fun hm => hk (hsub key hm)]
      exact .none
  · intro h
    have hkeys : ∀ key, key ∈ Assoc.keys xs ↔ key ∈ Assoc.keys ys := fun key => by
      have := rel_eq_none_iff (h key)
      rw [Assoc.get?_eq_none_iff, Assoc.get?_eq_none_iff] at this
      exact not_iff_not.mp this
    have hp : (Assoc.keys xs).Perm (Assoc.keys ys) :=
      (List.perm_ext_iff_of_nodup hx hy).mpr hkeys
    refine ⟨by simpa [Assoc.keys] using hp.length_eq, fun entry he => ?_⟩
    have hk := h entry.1
    rw [Assoc.get?_of_mem hx he] at hk
    cases hg : Assoc.get? entry.1 ys with
    | none => rw [hg] at hk; cases hk
    | some y =>
      rw [hg] at hk
      cases hk with
      | some hxy => exact ⟨y, rfl, hxy⟩

/-- **Strict equality is similarity.**  On well-formed values `v == w` compares records as
unordered maps and doubles as numbers, at every depth. -/
theorem beq_iff_similar : ∀ {v w : Value}, v.WellFormed → w.WellFormed →
    (beq v w = true ↔ Similar (fun x y => (x == y) = true) v w) := by
  intro v
  induction v using Value.induct with
  | scalar v ha hrec =>
    intro w _ _
    constructor
    · intro h
      cases v with
      | array => cases ha
      | record => cases hrec
      | number x => cases w with | number y => exact .number h | _ => cases h
      | undefined => cases w with | undefined => exact .undefined | _ => cases h
      | null => cases w with | null => exact .null | _ => cases h
      | bool b => cases w with | bool c => exact (eq_of_beq h) ▸ .bool b | _ => cases h
      | string s => cases w with | string t => exact (eq_of_beq h) ▸ .string s | _ => cases h
      | date s =>
        cases w with
        | date t =>
          rw [beq, Bool.and_eq_true, beq_iff_eq, beq_iff_eq] at h
          have hst : s = t := by
            cases s; cases t
            exact congr (congrArg Instant.mk h.1) h.2
          exact hst ▸ .date s
        | _ => cases h
      | binary bs => cases w with | binary cs => exact (eq_of_beq h) ▸ .binary bs | _ => cases h
      | function f => cases w with | function g => exact (eq_of_beq h) ▸ .function f | _ => cases h
    · intro h
      cases h with
      | number h => exact h
      | array => cases ha
      | record => cases hrec
      | _ => simp [beq]
  | array items ih =>
    intro w hv hw
    rw [wellFormed_array] at hv
    cases w with
    | array others =>
      rw [wellFormed_array] at hw
      rw [beq, beqItems_iff]
      have hrel : ∀ i : Nat, Option.Rel (fun x y => beq x y = true) items[i]? others[i]? ↔
          Option.Rel (Similar fun x y => (x == y) = true) items[i]? others[i]? := fun i =>
        rel_congr fun x y hx hy =>
          ih x (List.mem_of_getElem? hx) (hv x (List.mem_of_getElem? hx))
            (hw y (List.mem_of_getElem? hy))
      exact ⟨fun h => .array fun i => (hrel i).mp (h i),
        fun h => by cases h with | array h => exact fun i => (hrel i).mpr (h i)⟩
    | _ => exact ⟨fun h => (by cases h), fun h => (by cases h)⟩
  | record entries ih =>
    intro w hv hw
    rw [wellFormed_record] at hv
    cases w with
    | record others =>
      rw [wellFormed_record] at hw
      rw [record_beq_iff hv.1 hw.1]
      have hrel : ∀ key, Option.Rel (fun x y => beq x y = true)
            (Assoc.get? key entries) (Assoc.get? key others) ↔
          Option.Rel (Similar fun x y => (x == y) = true)
            (Assoc.get? key entries) (Assoc.get? key others) := fun key =>
        rel_congr fun x y hx hy =>
          ih _ (Assoc.mem_of_get? hx) (hv.2 _ (Assoc.mem_of_get? hx))
            (hw.2 _ (Assoc.mem_of_get? hy))
      exact ⟨fun h => .record fun key => (hrel key).mp (h key),
        fun h => by cases h with | record h => exact fun key => (hrel key).mpr (h key)⟩
    | _ => exact ⟨fun h => (by cases h), fun h => (by cases h)⟩

theorem alike_of_beq {v w : Value} (hv : v.WellFormed) (hw : w.WellFormed)
    (h : (v == w) = true) : Alike v w :=
  ((beq_iff_similar hv hw).mp h).mono fun hxy => Binary64.agree_of_beq hxy

/-! ### Lookup and updates -/

theorem Similar.get? {v w : Value} (h : Similar r v w) (key : String) :
    Option.Rel (Similar r) (v.get? key) (w.get? key) := by
  cases h with
  | record h => exact h key
  | array h =>
    unfold Value.get?
    cases Path.index? key with
    | none => exact .none
    | some i => exact h i
  | _ => exact .none

theorem Similar.follow? : ∀ (path : List String) {v w : Value}, Similar r v w →
    Option.Rel (Similar r) (Value.follow? path v) (Value.follow? path w) := by
  intro path
  induction path with
  | nil => intro v w h; exact .some h
  | cons key path ih =>
    intro v w h
    have hfield := h.get? key
    unfold Value.follow?
    cases hv : v.get? key with
    | none =>
      rw [(rel_eq_none_iff hfield).mp hv]
      exact .none
    | some child =>
      rw [hv] at hfield
      cases hw : w.get? key with
      | none => rw [hw] at hfield; cases hfield
      | some other =>
        rw [hw] at hfield
        cases hfield with
        | some hchild => exact ih hchild

theorem length_eq_of_rel {xs ys : List Value}
    (h : ∀ i : Nat, Option.Rel (Similar r) xs[i]? ys[i]?) : xs.length = ys.length := by
  have hle : ∀ i : Nat, xs.length ≤ i ↔ ys.length ≤ i := fun i => by
    rw [← List.getElem?_eq_none_iff, ← List.getElem?_eq_none_iff]
    exact rel_eq_none_iff (h i)
  exact Nat.le_antisymm ((hle _).mpr (Nat.le_refl _)) ((hle _).mp (Nat.le_refl _))

theorem Similar.set {xs ys : List Value} {x y : Value}
    (h : ∀ i : Nat, Option.Rel (Similar r) xs[i]? ys[i]?) (hxy : Similar r x y) (j : Nat) :
    ∀ i : Nat, Option.Rel (Similar r) (xs.set j x)[i]? (ys.set j y)[i]? := by
  intro i
  rw [List.getElem?_set, List.getElem?_set, length_eq_of_rel h]
  split
  · split
    · exact .some hxy
    · exact .none
  · exact h i

theorem Similar.append {xs ys : List Value} {x y : Value}
    (h : ∀ i : Nat, Option.Rel (Similar r) xs[i]? ys[i]?) (hxy : Similar r x y) :
    ∀ i : Nat, Option.Rel (Similar r) (xs ++ [x])[i]? (ys ++ [y])[i]? := by
  intro i
  have hlen := length_eq_of_rel h
  rw [List.getElem?_append, List.getElem?_append, ← hlen]
  split
  · exact h i
  · cases i - xs.length with
    | zero => exact .some hxy
    | succ => exact .none

theorem Similar.setField {v w x y : Value} (h : Similar r v w) (hxy : Similar r x y)
    (key : String) : Similar r (v.setField key x) (w.setField key y) := by
  cases h with
  | record h =>
    refine .record fun other => ?_
    rw [Assoc.get?_insert, Assoc.get?_insert]
    split
    · exact .some hxy
    · exact h other
  | array h =>
    unfold Value.setField
    cases Path.index? key with
    | none => exact .array h
    | some i =>
      dsimp only
      rw [length_eq_of_rel h]
      split
      · exact .array (Similar.append h hxy)
      · exact .array (Similar.set h hxy i)
  | _ => constructor <;> assumption

theorem Similar.deleteField {v w : Value} (h : Similar r v w) (hv : v.WellFormed)
    (hw : w.WellFormed) (key : String) : Similar r (v.deleteField key) (w.deleteField key) := by
  cases h with
  | record h =>
    rw [wellFormed_record] at hv hw
    refine .record fun other => ?_
    by_cases hk : key = other
    · subst hk
      rw [Assoc.get?_erase_self hv.1, Assoc.get?_erase_self hw.1]
      exact .none
    · rw [Assoc.get?_erase_of_ne hk, Assoc.get?_erase_of_ne hk]
      exact h other
  | array h =>
    unfold Value.deleteField
    cases Path.index? key with
    | none => exact .array h
    | some i => exact .array (Similar.set h .undefined i)
  | _ => constructor <;> assumption

end RecordQuery.Value

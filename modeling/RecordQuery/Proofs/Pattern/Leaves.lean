import Mathlib.Data.List.Perm.Basic
import RecordQuery.Proofs.Value.Parts
import RecordQuery.Pattern.Expansion

/-!
# The leaves of a pattern

A pattern is a tree whose branches are the keys of nested records, dotted keys taken apart.  At its
leaves stand operators with their arguments, literals and empty records.  Writing dotted keys out
changes the tree but keeps the leaves, as long as no leaf lies on the way to another one.

* `Pattern.leavesOf`: the leaves of a pattern, with their paths.
* `Pattern.Separated`: no path of a leaf begins with that of another one.
* `Pattern.perm_leavesOf_expand`: writing dotted keys out keeps separated leaves.
-/

namespace RecordQuery

open RecordQuery.Path (hasSigil)

/-- The path of keys to an end of a pattern, and what stands there. -/
structure Leaf where
  path : List String
  value : Value

namespace Leaf

/-- The leaf as seen from above. -/
def under (path : List String) (leaf : Leaf) : Leaf := { leaf with path := path ++ leaf.path }

/-- Neither path is the beginning of the other. -/
def Apart (first second : Leaf) : Prop :=
  ¬ first.path <+: second.path ∧ ¬ second.path <+: first.path

theorem Apart.symm {first second : Leaf} (h : Apart first second) : Apart second first :=
  ⟨h.2, h.1⟩

theorem apart_under_iff (path : List String) (first second : Leaf) :
    Apart (first.under path) (second.under path) ↔ Apart first second := by
  simp only [Apart, under, List.prefix_append_right_inj]

theorem under_under (first second : List String) (leaf : Leaf) :
    (leaf.under second).under first = leaf.under (first ++ second) := by
  simp [under]

end Leaf

namespace Pattern

mutual

def leavesOf : List (String × Value) → List Leaf
  | [] => []
  | (key, value) :: rest => leavesUnder key value ++ leavesOf rest

/-- The leaves of an entry of a pattern; what stands under an operator is not divided. -/
def leavesUnder (key : String) : Value → List Leaf
  | .record nested =>
    if hasSigil key || nested.isEmpty then [⟨keyPath key, .record nested⟩]
    else (leavesOf nested).map (.under (keyPath key))
  | value => [⟨keyPath key, value⟩]

end

/-- No leaf lies on the way to another one. -/
def Separated (leaves : List Leaf) : Prop := leaves.Pairwise Leaf.Apart

/-! ### Segments -/

theorem keyPath_of_mem {key segment : String} (h : segment ∈ keyPath key) :
    keyPath segment = [segment] := by
  by_cases hs : hasSigil segment = true
  · simp [keyPath, hs]
  · obtain ⟨only, ho⟩ := List.length_eq_one_iff.mp (length_keyPath_of_mem h)
    rw [keyPath, if_neg hs, Path.segments] at ho ⊢
    rw [keyPath] at h
    split at h
    · next hk => exact absurd (List.mem_singleton.mp h ▸ hk) hs
    · obtain ⟨part, hpart, rfl⟩ := List.mem_map.mp h
      have hsplit : Text.splitOn (fun c => c == '.') part = [part] :=
        splitOn_eq_singleton fun c hc => by
          have := not_isMark_of_mem_splitOn hpart hc
          simpa using this
      rw [String.toList_ofList, hsplit, List.map_singleton]

theorem keyPath_of_hasSigil {key : String} (h : hasSigil key = true) : keyPath key = [key] := by
  rw [keyPath, if_pos h]

theorem isChain_eq_false_of_hasSigil {key : String} (h : hasSigil key = true) :
    isChain key = false := by
  rw [isChain, h, Bool.not_true, Bool.and_false]

theorem isChain_eq_false_of_isDotted {key : String} (h : Path.isDotted key = false) :
    isChain key = false := by
  rw [isChain, h, Bool.false_and]

theorem segments_of_isDotted_eq_false {key : String} (h : Path.isDotted key = false) :
    Path.segments key = [key] := by
  rw [Path.isDotted, List.any_eq_false] at h
  rw [Path.segments, splitOn_eq_singleton fun c hc => Bool.eq_false_iff.mpr (h c hc),
    List.map_singleton, String.ofList_toList]

theorem keyPath_of_isChain_eq_false {key : String} (h : isChain key = false) :
    keyPath key = [key] := by
  by_cases hs : hasSigil key = true
  · exact keyPath_of_hasSigil hs
  · have hdots : Path.isDotted key = false := by simpa [isChain, hs] using h
    rw [keyPath, if_neg hs, segments_of_isDotted_eq_false hdots]

theorem expand_of_isChain_eq_false {pattern : Entries}
    (h : ∀ entry ∈ pattern, isChain entry.1 = false) : expand pattern = pattern := by
  have hno : (pattern.any fun entry => isChain entry.1) = false :=
    List.any_eq_false.mpr fun entry he => Bool.eq_false_iff.mp (h entry he)
  rw [expand, hno]
  rfl

theorem expand_singleton {key : String} (h : isChain key = false) (value : Value) :
    expand [(key, value)] = [(key, value)] :=
  expand_of_isChain_eq_false (List.forall_mem_singleton.mpr h)

/-! ### Leaves of entries -/

theorem leavesOf_eq_flatMap (entries : Entries) :
    leavesOf entries = entries.flatMap fun entry => leavesUnder entry.1 entry.2 := by
  induction entries with
  | nil => rfl
  | cons entry rest ih => rw [leavesOf, ih, List.flatMap_cons]

theorem leavesOf_cons (entry : String × Value) (rest : Entries) :
    leavesOf (entry :: rest) = leavesUnder entry.1 entry.2 ++ leavesOf rest := by
  obtain ⟨key, value⟩ := entry
  rw [leavesOf]

theorem leavesOf_append (first second : Entries) :
    leavesOf (first ++ second) = leavesOf first ++ leavesOf second := by
  simp [leavesOf_eq_flatMap]

theorem leavesOf_perm {first second : Entries} (h : first.Perm second) :
    (leavesOf first).Perm (leavesOf second) := by
  rw [leavesOf_eq_flatMap, leavesOf_eq_flatMap]
  exact h.flatMap_right _

theorem leavesUnder_record {key : String} {nested : Entries} (hk : hasSigil key = false)
    (hn : nested ≠ []) :
    leavesUnder key (.record nested) = (leavesOf nested).map (.under (keyPath key)) := by
  rw [leavesUnder, hk, Bool.false_or, List.isEmpty_eq_false_iff.mpr hn]
  rfl

theorem leavesUnder_empty (key : String) :
    leavesUnder key (.record []) = [⟨keyPath key, .record []⟩] := by
  simp [leavesUnder]

theorem leavesUnder_cases (key : String) (value : Value) :
    (∃ nested, value = .record nested ∧ nested ≠ [] ∧ hasSigil key = false ∧
      leavesUnder key value = (leavesOf nested).map (.under (keyPath key))) ∨
    ((hasSigil key = true ∨ value.record? = none ∨ value = .record []) ∧
      leavesUnder key value = [⟨keyPath key, value⟩]) := by
  cases value with
  | record nested =>
    by_cases hk : hasSigil key = true
    · exact Or.inr ⟨Or.inl hk, by simp [leavesUnder, hk]⟩
    · by_cases hn : nested = []
      · subst hn
        exact Or.inr ⟨Or.inr (Or.inr rfl), leavesUnder_empty key⟩
      · rw [Bool.not_eq_true] at hk
        exact Or.inl ⟨nested, rfl, hn, hk, leavesUnder_record hk hn⟩
  | _ => exact Or.inr ⟨Or.inr (Or.inl rfl), rfl⟩

theorem leavesUnder_of_literal {key : String} {value : Value} (h : value.record? = none) :
    leavesUnder key value = [⟨keyPath key, value⟩] := by
  cases value with
  | record => cases h
  | _ => rfl

theorem leavesUnder_of_hasSigil {key : String} (h : hasSigil key = true) (value : Value) :
    leavesUnder key value = [⟨[key], value⟩] := by
  rcases leavesUnder_cases key value with ⟨_, _, _, hk, _⟩ | ⟨-, hl⟩
  · rw [h] at hk; cases hk
  · rw [hl, keyPath_of_hasSigil h]

theorem leavesUnder_ne_nil : ∀ (value : Value) (key : String), leavesUnder key value ≠ [] := by
  intro value
  induction value using Value.induct with
  | scalar v _ hr => intro key; simp [leavesUnder_of_literal hr]
  | array items _ => intro key; exact List.cons_ne_nil _ _
  | record entries ih =>
    intro key
    rcases leavesUnder_cases key (.record entries) with ⟨nested, he, hn, -, hl⟩ | ⟨-, hl⟩
    · cases he
      obtain ⟨entry, rest, rfl⟩ := List.exists_cons_of_ne_nil hn
      rw [hl, leavesOf]
      simp [ih entry List.mem_cons_self entry.1]
    · simp [hl]

theorem leavesOf_ne_nil {entries : Entries} (h : entries ≠ []) : leavesOf entries ≠ [] := by
  obtain ⟨entry, rest, rfl⟩ := List.exists_cons_of_ne_nil h
  rw [leavesOf]
  simp [leavesUnder_ne_nil]

theorem prefix_of_mem_leavesUnder {key : String} {value : Value} {leaf : Leaf}
    (h : leaf ∈ leavesUnder key value) : keyPath key <+: leaf.path := by
  rcases leavesUnder_cases key value with ⟨nested, _, _, _, hl⟩ | ⟨-, hl⟩
  · rw [hl] at h
    obtain ⟨below, _, rfl⟩ := List.mem_map.mp h
    exact List.prefix_append ..
  · rw [hl, List.mem_singleton] at h
    subst h
    exact List.prefix_refl _

theorem mem_leavesOf {leaf : Leaf} {entries : Entries} :
    leaf ∈ leavesOf entries ↔ ∃ entry ∈ entries, leaf ∈ leavesUnder entry.1 entry.2 := by
  rw [leavesOf_eq_flatMap, List.mem_flatMap]

theorem mem_leavesOf_of_get? {leaf : Leaf} {entries : Entries} {key : String} {value : Value}
    (h : Assoc.get? key entries = some value) (hl : leaf ∈ leavesUnder key value) :
    leaf ∈ leavesOf entries := mem_leavesOf.mpr ⟨(key, value), Assoc.mem_of_get? h, hl⟩

theorem sublist_leavesOf_of_mem {entry : String × Value} {entries : Entries}
    (h : entry ∈ entries) : (leavesUnder entry.1 entry.2).Sublist (leavesOf entries) := by
  obtain ⟨before, after, rfl⟩ := List.append_of_mem h
  rw [leavesOf_append, leavesOf_cons]
  exact (List.sublist_append_left ..).trans (List.sublist_append_right ..)

theorem path_ne_nil_of_mem_leavesOf {leaf : Leaf} {entries : Entries}
    (h : leaf ∈ leavesOf entries) :
    leaf.path ≠ [] := by
  obtain ⟨entry, -, hl⟩ := mem_leavesOf.mp h
  intro hnil
  have hprefix := prefix_of_mem_leavesUnder hl
  rw [hnil, List.prefix_nil] at hprefix
  exact keyPath_ne_nil entry.1 hprefix

/-! ### Separated leaves -/

theorem Separated.perm {first second : List Leaf} (h : Separated first) (hp : first.Perm second) :
    Separated second := (hp.pairwise_iff Leaf.Apart.symm).mp h

theorem Separated.sublist {first second : List Leaf} (h : Separated second)
    (hs : first.Sublist second) : Separated first := List.Pairwise.sublist hs h

theorem separated_map_under (path : List String) {leaves : List Leaf} :
    Separated (leaves.map (.under path)) ↔ Separated leaves := by
  rw [Separated, List.pairwise_map]
  exact List.Pairwise.iff fun _ _ => Leaf.apart_under_iff ..

theorem Separated.apart {first second : List Leaf} (h : Separated (first ++ second)) {a b : Leaf}
    (ha : a ∈ first) (hb : b ∈ second) : a.Apart b := (List.pairwise_append.mp h).2.2 a ha b hb

/-- **Two separated entries under one key are nested patterns both.** -/
theorem Separated.nested_of_get? {target : Entries} {key : String} {old value : Value}
    (h : Separated (leavesOf target ++ leavesUnder key value))
    (hg : Assoc.get? key target = some old) :
    (∃ existing, old = .record existing ∧ existing ≠ []) ∧
      (∃ incoming, value = .record incoming ∧ incoming ≠ []) ∧ hasSigil key = false := by
  rcases leavesUnder_cases key old with ⟨existing, he, hne, hk, -⟩ | ⟨-, hl⟩
  · rcases leavesUnder_cases key value with ⟨incoming, hi, hni, -, -⟩ | ⟨-, hv⟩
    · exact ⟨⟨existing, he, hne⟩, ⟨incoming, hi, hni⟩, hk⟩
    · -- the new leaf stands above the old ones
      obtain ⟨leaf, hm⟩ := List.exists_mem_of_ne_nil _ (leavesUnder_ne_nil old key)
      have happ := h.apart (mem_leavesOf_of_get? hg hm) (hv ▸ List.mem_singleton.mpr rfl)
      exact absurd (prefix_of_mem_leavesUnder hm) happ.2
  · -- the old leaf stands above the new ones
    obtain ⟨leaf, hm⟩ := List.exists_mem_of_ne_nil _ (leavesUnder_ne_nil value key)
    have happ := h.apart (mem_leavesOf_of_get? hg (hl ▸ List.mem_singleton.mpr rfl)) hm
    exact absurd (prefix_of_mem_leavesUnder hm) happ.1

theorem leavesOf_insert_of_get?_eq_none {target : Entries} {key : String}
    (h : Assoc.get? key target = none) (value : Value) :
    leavesOf (Assoc.insert key value target) = leavesOf target ++ leavesUnder key value := by
  rw [Assoc.insert_of_get?_eq_none value h, leavesOf_append, leavesOf, leavesOf, List.append_nil]

theorem mergeLeaf_of_literal {value : Value} (hr : value.record? = none) (target : Entries)
    (key : String) : mergeLeaf target key value = Assoc.insert key value target := by
  cases value with
  | record => cases hr
  | _ => rw [mergeLeaf]; simp

theorem perm_leavesOf_mergeLeaf_literal {target : Entries} {key : String} {value : Value}
    (h : Separated (leavesOf target ++ leavesUnder key value)) (hr : value.record? = none) :
    (leavesOf (mergeLeaf target key value)).Perm (leavesOf target ++ leavesUnder key value) := by
  rw [mergeLeaf_of_literal hr]
  cases hg : Assoc.get? key target with
  | none => rw [leavesOf_insert_of_get?_eq_none hg]
  | some old =>
    obtain ⟨-, ⟨incoming, rfl, -⟩, -⟩ := h.nested_of_get? hg
    cases hr

/-- A nested pattern whose leaves are those of the pattern there and others adds the others. -/
theorem perm_leavesOf_insert {target merged : Entries} {key : String} {added : List Leaf}
    (hk : hasSigil key = false) (hadded : added ≠ [])
    (hg : ∀ old, Assoc.get? key target = some old → ∃ existing, old = .record existing ∧
      existing ≠ [])
    (h : (leavesOf merged).Perm (leavesOf (Entries.inner key target) ++ added)) :
    (leavesOf (Assoc.insert key (.record merged) target)).Perm
      (leavesOf target ++ added.map (.under (keyPath key))) := by
  have hmerged : merged ≠ [] := by
    rintro rfl
    have := h.symm.eq_nil
    exact hadded (List.append_eq_nil_iff.mp this).2
  have hunder := h.map (Leaf.under (keyPath key))
  rw [← leavesUnder_record hk hmerged] at hunder
  cases hget : Assoc.get? key target with
  | none =>
    rw [Entries.inner, hget] at hunder
    rw [leavesOf_insert_of_get?_eq_none hget]
    exact hunder.append_left _
  | some old =>
    obtain ⟨existing, rfl, hne⟩ := hg old hget
    rw [Entries.inner, hget, List.map_append, ← leavesUnder_record hk hne] at hunder
    -- the entry that is there gives way to the merged one
    have hnew := leavesOf_perm (Assoc.insert_perm key (.record merged) target)
    have hold := leavesOf_perm (Assoc.perm_cons_erase hget)
    refine hnew.trans ((hunder.append_right _).trans (.trans ?_ (hold.symm.append_right _)))
    rw [leavesOf_cons, List.append_assoc, List.append_assoc]
    exact List.perm_append_comm.append_left _

/-! ### Merging -/

theorem Separated.right_of_append {first second : List Leaf} (h : Separated (first ++ second)) :
    Separated second := h.sublist (List.sublist_append_right ..)

theorem Separated.below {target nested : Entries} {key : String} {added : List Leaf}
    (h : Separated (leavesOf target ++ added.map (.under (keyPath key))))
    (hk : hasSigil key = false) (hn : nested ≠ [])
    (hg : Assoc.get? key target = some (.record nested)) :
      Separated (leavesOf nested ++ added) := by
  rw [← separated_map_under (keyPath key), List.map_append, ← leavesUnder_record hk hn]
  exact h.sublist (.append (sublist_leavesOf_of_mem (Assoc.mem_of_get? hg)) (.refl _))

mutual

theorem perm_leavesOf_mergeLeaf (target : Entries) (key : String) : ∀ value : Value,
    Separated (leavesOf target ++ leavesUnder key value) →
      (leavesOf (mergeLeaf target key value)).Perm (leavesOf target ++ leavesUnder key value)
  | .record incoming => fun h => by
    rw [mergeLeaf]
    split
    · next existing hg =>
      obtain ⟨⟨_, ⟨⟩, hne⟩, ⟨_, ⟨⟩, hni⟩, hk⟩ := h.nested_of_get? hg
      rw [leavesUnder_record hk hni] at h ⊢
      refine perm_leavesOf_insert hk (leavesOf_ne_nil hni) (fun old ho => ?_) ?_
      · rw [hg, Option.some.injEq] at ho
        exact ⟨existing, ho.symm, hne⟩
      · rw [Entries.inner, hg]
        exact perm_leavesOf_mergeAll existing incoming (h.below hk hne hg)
    · next hno =>
      cases hg : Assoc.get? key target with
      | none => rw [leavesOf_insert_of_get?_eq_none hg]
      | some old =>
        obtain ⟨⟨existing, rfl, -⟩, -⟩ := h.nested_of_get? hg
        exact absurd hg (hno existing)
  | .undefined => fun h => perm_leavesOf_mergeLeaf_literal h rfl
  | .null => fun h => perm_leavesOf_mergeLeaf_literal h rfl
  | .bool _ => fun h => perm_leavesOf_mergeLeaf_literal h rfl
  | .number _ => fun h => perm_leavesOf_mergeLeaf_literal h rfl
  | .string _ => fun h => perm_leavesOf_mergeLeaf_literal h rfl
  | .date _ => fun h => perm_leavesOf_mergeLeaf_literal h rfl
  | .binary _ => fun h => perm_leavesOf_mergeLeaf_literal h rfl
  | .array _ => fun h => perm_leavesOf_mergeLeaf_literal h rfl
  | .function _ => fun h => perm_leavesOf_mergeLeaf_literal h rfl

theorem perm_leavesOf_mergeAll (target : Entries) : ∀ incoming : List (String × Value),
    Separated (leavesOf target ++ leavesOf incoming) →
      (leavesOf (mergeAll target incoming)).Perm (leavesOf target ++ leavesOf incoming)
  | [] => fun _ => by rw [mergeAll, leavesOf, List.append_nil]
  | (key, value) :: rest => fun h => by
    rw [leavesOf, ← List.append_assoc] at h ⊢
    have hfirst := perm_leavesOf_mergeLeaf target key value
      (h.sublist (List.sublist_append_left ..))
    rw [mergeAll]
    exact (perm_leavesOf_mergeAll _ rest (h.perm (hfirst.symm.append_right _))).trans
      (hfirst.append_right _)

end

/-! ### Dotted keys -/

/-- The leaves of a value at the end of a path of single segments. -/
def leavesAt (value : Value) : List String → List Leaf
  | [] => []
  | [key] => leavesUnder key value
  | key :: path => (leavesAt value path).map (.under [key])

theorem leavesAt_cons_cons (value : Value) (key next : String) (path : List String) :
    leavesAt value (key :: next :: path) =
      (leavesAt value (next :: path)).map (.under [key]) := rfl

theorem mergeAt_cons_cons (target : Entries) (value : Value) (key next : String)
    (path : List String) :
    mergeAt target value (key :: next :: path) =
      Assoc.insert key (.record (mergeAt (Entries.inner key target) value (next :: path)))
        target := rfl

theorem inner_insert (key : String) (nested target : Entries) :
    Entries.inner key (Assoc.insert key (.record nested) target) = nested := by
  rw [Entries.inner, Assoc.get?_insert_self]

theorem leavesAt_ne_nil (value : Value) : ∀ {path : List String}, path ≠ [] →
    leavesAt value path ≠ [] := by
  intro path
  induction path with
  | nil => intro h; exact absurd rfl h
  | cons key path ih =>
    intro _
    cases path with
    | nil => exact leavesUnder_ne_nil value key
    | cons next path => simpa [leavesAt] using ih (List.cons_ne_nil _ _)

theorem leavesAt_of_literal {value : Value} : ∀ {path : List String}, path ≠ [] →
    (∀ segment ∈ path, keyPath segment = [segment]) →
      (∀ key, leavesUnder key value = [⟨keyPath key, value⟩]) →
        leavesAt value path = [⟨path, value⟩] := by
  intro path
  induction path with
  | nil => intro h; exact absurd rfl h
  | cons key path ih =>
    intro _ hsingle hleaf
    cases path with
    | nil => rw [leavesAt, hleaf, hsingle key List.mem_cons_self]
    | cons next path =>
      rw [leavesAt_cons_cons, ih (List.cons_ne_nil _ _)
        (fun s hs => hsingle s (List.mem_cons_of_mem _ hs)) hleaf]
      rfl

theorem leavesAt_of_record {nested : Entries} (hn : nested ≠ []) : ∀ {path : List String},
    path ≠ [] → (∀ segment ∈ path, keyPath segment = [segment]) →
      (∀ segment ∈ path, hasSigil segment = false) →
        leavesAt (.record nested) path = (leavesOf nested).map (.under path) := by
  intro path
  induction path with
  | nil => intro h; exact absurd rfl h
  | cons key path ih =>
    intro _ hsingle hplain
    cases path with
    | nil =>
      rw [leavesAt, leavesUnder_record (hplain key List.mem_cons_self) hn,
        hsingle key List.mem_cons_self]
    | cons next path =>
      rw [leavesAt_cons_cons, ih (List.cons_ne_nil _ _)
        (fun s hs => hsingle s (List.mem_cons_of_mem _ hs))
        (fun s hs => hplain s (List.mem_cons_of_mem _ hs)), List.map_map]
      exact List.map_congr_left fun leaf _ => Leaf.under_under ..

/-- The keys above a leaf are no operators. -/
def Placed (leaf : Leaf) : Prop := ∀ segment ∈ leaf.path.dropLast, hasSigil segment = false

instance (leaf : Leaf) : Decidable (Placed leaf) :=
  inferInstanceAs (Decidable (∀ segment ∈ leaf.path.dropLast, hasSigil segment = false))

/-- A key and the path that it stands for have the same leaves, unless the path leads through an
operator. -/
theorem leavesAt_keyPath {key : String} {value : Value}
    (h : ∀ leaf ∈ leavesUnder key value, Placed leaf) :
    leavesAt value (keyPath key) = leavesUnder key value := by
  have hsingle : ∀ segment ∈ keyPath key, keyPath segment = [segment] := fun _ => keyPath_of_mem
  cases hr : value.record? with
  | none =>
    rw [leavesUnder_of_literal hr,
      leavesAt_of_literal (keyPath_ne_nil key) hsingle fun _ => leavesUnder_of_literal hr]
  | some nested =>
    obtain rfl := Value.record?_eq_some_iff.mp hr
    by_cases hk : hasSigil key = true
    · rw [keyPath_of_hasSigil hk, leavesAt]
    · rw [Bool.not_eq_true] at hk
      by_cases hn : nested = []
      · subst hn
        have hempty : ∀ other, leavesUnder other (.record []) = [⟨keyPath other, .record []⟩] :=
          fun other => by simp [leavesUnder]
        rw [hempty, leavesAt_of_literal (keyPath_ne_nil key) hsingle hempty]
      · rw [leavesUnder_record hk hn] at h ⊢
        refine leavesAt_of_record hn (keyPath_ne_nil key) hsingle fun segment hs => ?_
        -- any leaf below lies behind the whole path
        obtain ⟨leaf, hm⟩ := List.exists_mem_of_ne_nil _ (leavesOf_ne_nil hn)
        refine h _ (List.mem_map.mpr ⟨leaf, hm, rfl⟩) segment ?_
        rw [Leaf.under, List.dropLast_append_of_ne_nil (path_ne_nil_of_mem_leavesOf hm)]
        exact List.mem_append_left _ hs

theorem perm_leavesOf_mergeAt (value : Value) : ∀ {path : List String} {target : Entries},
    (∀ segment ∈ path, keyPath segment = [segment]) →
      (∀ segment ∈ path.dropLast, hasSigil segment = false) →
        Separated (leavesOf target ++ leavesAt value path) →
          (leavesOf (mergeAt target value path)).Perm (leavesOf target ++ leavesAt value path) := by
  intro path
  induction path with
  | nil => intro target _ _ _; rw [mergeAt, leavesAt, List.append_nil]
  | cons key path ih =>
    intro target hsingle hplain h
    cases path with
    | nil => exact perm_leavesOf_mergeLeaf target key value h
    | cons next path =>
      have hkey := hsingle key List.mem_cons_self
      have hk := hplain key List.mem_cons_self
      have hrest : ∀ s ∈ next :: path, keyPath s = [s] :=
        fun s hs => hsingle s (List.mem_cons_of_mem _ hs)
      have hadded := leavesAt_ne_nil value (List.cons_ne_nil next path)
      rw [leavesAt_cons_cons, ← hkey] at h ⊢
      rw [mergeAt_cons_cons]
      have hg : ∀ old, Assoc.get? key target = some old →
          ∃ existing, old = .record existing ∧ existing ≠ [] := by
        intro old ho
        rcases leavesUnder_cases key old with ⟨existing, he, hne, -, -⟩ | ⟨-, hl⟩
        · exact ⟨existing, he, hne⟩
        · -- a leaf on the way
          obtain ⟨leaf, hm⟩ := List.exists_mem_of_ne_nil _ hadded
          have happ := h.apart (mem_leavesOf_of_get? ho (hl ▸ List.mem_singleton.mpr rfl))
            (List.mem_map.mpr ⟨leaf, hm, rfl⟩)
          exact absurd (List.prefix_append (keyPath key) leaf.path) happ.1
      refine perm_leavesOf_insert hk hadded hg (ih hrest ?_ ?_)
      · exact fun s hs => hplain s (List.mem_cons_of_mem _ hs)
      · unfold Entries.inner
        split
        · next existing hget =>
          obtain ⟨_, ⟨⟩, hne⟩ := hg _ hget
          exact h.below hk hne hget
        · exact (separated_map_under (keyPath key)).mp h.right_of_append

theorem mem_dropLast_of_isPrefix {α : Type} {first second : List α} {x : α} (h : first <+: second)
    (hx : x ∈ first.dropLast) : x ∈ second.dropLast := by
  obtain ⟨rest, rfl⟩ := h
  by_cases hr : rest = []
  · rwa [hr, List.append_nil]
  · rw [List.dropLast_append_of_ne_nil hr]
    exact List.mem_append_left _ (List.dropLast_subset _ hx)

theorem perm_leavesOf_mergeChains : ∀ {pattern target : Entries},
    (∀ leaf ∈ leavesOf pattern, Placed leaf) → Separated (leavesOf target ++ leavesOf pattern) →
      (leavesOf (mergeChains target pattern)).Perm (leavesOf target ++ leavesOf pattern) := by
  intro pattern
  induction pattern with
  | nil => intro target _ _; rw [mergeChains, leavesOf, List.append_nil]
  | cons entry rest ih =>
    intro target hp h
    obtain ⟨key, value⟩ := entry
    rw [leavesOf, ← List.append_assoc] at h ⊢
    rw [leavesOf, List.forall_mem_append] at hp
    have hfirst : (leavesOf (mergeAt target value (keyPath key))).Perm
        (leavesOf target ++ leavesUnder key value) := by
      rw [← leavesAt_keyPath hp.1] at h ⊢
      refine perm_leavesOf_mergeAt value (fun _ => keyPath_of_mem) (fun segment hs => ?_)
        (h.sublist (List.sublist_append_left ..))
      obtain ⟨leaf, hm⟩ := List.exists_mem_of_ne_nil _ (leavesUnder_ne_nil value key)
      exact hp.1 leaf hm segment (mem_dropLast_of_isPrefix (prefix_of_mem_leavesUnder hm) hs)
    rw [mergeChains]
    exact (ih hp.2 (h.perm (hfirst.symm.append_right _))).trans (hfirst.append_right _)

/-- **Writing dotted keys out keeps the leaves**, when they are separated. -/
theorem perm_leavesOf_expand {pattern : Entries} (hp : ∀ leaf ∈ leavesOf pattern, Placed leaf)
    (h : Separated (leavesOf pattern)) : (leavesOf (expand pattern)).Perm (leavesOf pattern) := by
  unfold expand
  split
  · exact perm_leavesOf_mergeChains hp h
  · exact .refl _

theorem exists_mergeAt_cons (target : Entries) (value : Value) (key : String)
    (path : List String) :
    ∃ merged, mergeAt target value (key :: path) = Assoc.insert key merged target := by
  cases path with
  | cons next path => exact ⟨_, mergeAt_cons_cons ..⟩
  | nil =>
    cases hr : value.record? with
    | none => exact ⟨value, mergeLeaf_of_literal hr ..⟩
    | some incoming =>
      obtain rfl := Value.record?_eq_some_iff.mp hr
      rw [mergeAt, mergeLeaf]
      split <;> exact ⟨_, rfl⟩

theorem key_of_mem_mergeAt {value : Value} {path : List String} {target : Entries}
    {entry : String × Value} (h : entry ∈ mergeAt target value path) :
    path.head? = some entry.1 ∨ entry ∈ target := by
  cases path with
  | nil => exact Or.inr h
  | cons key path =>
    obtain ⟨merged, hmerged⟩ := exists_mergeAt_cons target value key path
    rw [hmerged] at h
    rcases Assoc.mem_insert h with rfl | hm
    · exact Or.inl rfl
    · exact Or.inr hm

theorem key_of_mem_mergeChains {entry : String × Value} : ∀ {pattern target : Entries},
    entry ∈ mergeChains target pattern →
      (∃ origin ∈ pattern, (keyPath origin.1).head? = some entry.1) ∨ entry ∈ target := by
  intro pattern
  induction pattern with
  | nil => intro target h; exact Or.inr h
  | cons origin rest ih =>
    intro target h
    obtain ⟨key, value⟩ := origin
    rcases ih h with ⟨origin, ho, hk⟩ | hm
    · exact Or.inl ⟨origin, List.mem_cons_of_mem _ ho, hk⟩
    · rcases key_of_mem_mergeAt hm with hk | hm
      · exact Or.inl ⟨(key, value), List.mem_cons_self, hk⟩
      · exact Or.inr hm

theorem keyPath_of_mem_expand {pattern : Entries} {entry : String × Value}
    (h : entry ∈ expand pattern) : keyPath entry.1 = [entry.1] := by
  unfold expand at h
  split at h
  · rcases key_of_mem_mergeChains h with ⟨origin, -, hk⟩ | hm
    · exact keyPath_of_mem (List.mem_of_mem_head? hk)
    · cases hm
  · next hno =>
    rw [Bool.not_eq_true, List.any_eq_false] at hno
    exact keyPath_of_isChain_eq_false (Bool.eq_false_iff.mpr (hno entry h))

end Pattern

end RecordQuery

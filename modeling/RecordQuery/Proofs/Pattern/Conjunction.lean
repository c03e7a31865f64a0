import RecordQuery.Proofs.Pattern.Leaves
import RecordQuery.Proofs.Pattern.Satisfaction

/-!
# A pattern is the conjunction of its leaves

A pattern whose leaves are separated tests each of them on its own: the value at the end of the path
is given to the operator that stands there, or compared with the literal.

* `Registry.HoldsAt`: a leaf holds of a value.
* `Registry.Marked`: operators have names with the sigil, which registration asks for.
* `Registry.Tests`, `Registry.TransformFreeLeaf`: no transform stands at a leaf, or in it.
* `Registry.accepts_iff_holdsAt`: a pattern accepts what all its leaves hold of.
-/

namespace RecordQuery.Registry

open RecordQuery.Path (hasSigil)
open Pattern (leavesOf leavesUnder keyPath expand Placed Separated)

variable (registry : Registry)

/-- Whether the entry at the end of a path is passed by the value that the path leads to. -/
def HoldsAt (subject : Value) (scope : Option Scope) : (path : List String) → Value → Prop
  | [], _ => False
  | [key], value => registry.Passes subject scope key value
  | key :: next :: path, value =>
    HoldsAt (subject.field key) (some ⟨key, subject⟩) (next :: path) value

/-- All operators have the sigil in their names. -/
def Marked : Prop :=
  ∀ key, hasSigil key = false → registry.predicate? key = none ∧ registry.transform? key = none

/-- What stands at the end of the path is no transform. -/
def Tests (leaf : Leaf) : Prop :=
  ∀ key ∈ leaf.path.getLast?, hasSigil key = true → (registry.predicate? key).isSome = true

/-- The evaluation of what stands at the end of the path comes to no transform. -/
def TransformFreeLeaf (leaf : Leaf) : Prop :=
  ∀ key ∈ leaf.path.getLast?, registry.TransformFreeAt key leaf.value

variable {registry}

@[simp] theorem holdsAt_singleton {subject : Value} {scope : Option Scope} {key : String}
    {value : Value} :
    registry.HoldsAt subject scope [key] value ↔ registry.Passes subject scope key value := Iff.rfl

theorem holdsAt_cons {subject : Value} {scope : Option Scope} {key : String} {path : List String}
    (h : path ≠ []) (value : Value) :
    registry.HoldsAt subject scope (key :: path) value ↔
      registry.HoldsAt (subject.field key) (some ⟨key, subject⟩) path value := by
  cases path with
  | nil => exact absurd rfl h
  | cons next path => rfl

theorem placed_under_cons {key : String} {leaf : Leaf} (h : Placed (leaf.under [key]))
    (hn : leaf.path ≠ []) : Placed leaf := by
  intro segment hs
  refine h segment ?_
  rw [Leaf.under, List.dropLast_append_of_ne_nil hn]
  exact List.mem_append_right _ hs

theorem tests_under_iff {path : List String} {leaf : Leaf} (hn : leaf.path ≠ []) :
    registry.Tests (leaf.under path) ↔ registry.Tests leaf := by
  rw [Tests, Leaf.under, List.getLast?_append_of_ne_nil _ hn, Tests]

theorem forall_holdsAt_under_iff (entries : Entries) (key : String) (subject : Value)
    (scope : Option Scope) :
    (∀ leaf ∈ (leavesOf entries).map (Leaf.under [key]),
      registry.HoldsAt subject scope leaf.path leaf.value) ↔
      ∀ leaf ∈ leavesOf entries,
        registry.HoldsAt (subject.field key) (some ⟨key, subject⟩) leaf.path leaf.value := by
  rw [List.forall_mem_map]
  exact forall₂_congr fun leaf hm =>
    holdsAt_cons (Pattern.path_ne_nil_of_mem_leavesOf hm) leaf.value

theorem transformFreeLeaf_under_iff {path : List String} {leaf : Leaf} (hn : leaf.path ≠ []) :
    registry.TransformFreeLeaf (leaf.under path) ↔ registry.TransformFreeLeaf leaf := by
  rw [TransformFreeLeaf, Leaf.under, List.getLast?_append_of_ne_nil _ hn, TransformFreeLeaf]

theorem transformFreeLeaf_of_under {entries : Entries} {key : String}
    (h : ∀ leaf ∈ (leavesOf entries).map (Leaf.under [key]),
      Placed leaf ∧ registry.TransformFreeLeaf leaf) :
    ∀ leaf ∈ leavesOf entries, Placed leaf ∧ registry.TransformFreeLeaf leaf := by
  intro leaf hm
  have hne := Pattern.path_ne_nil_of_mem_leavesOf hm
  obtain ⟨hplaced, hfree⟩ := h _ (List.mem_map_of_mem hm)
  exact ⟨placed_under_cons hplaced hne, (transformFreeLeaf_under_iff hne).mp hfree⟩

theorem transformFreeAt_of_leaf (hreg : registry.Marked) {key : String} {argument : Value}
    (h : hasSigil key = true ∨ argument.record? = none ∨ argument = .record [])
    (ht : hasSigil key = true → (registry.predicate? key).isSome = true) :
    registry.TransformFreeAt key argument := by
  cases hs : hasSigil key with
  | true =>
    obtain ⟨predicate, hp⟩ := Option.isSome_iff_exists.mp (ht hs)
    exact .predicate hp
  | false =>
    obtain ⟨-, hnone⟩ := hreg key hs
    rcases h with hk | hr | rfl
    · rw [hs] at hk
      cases hk
    · exact .literal hnone hr
    · exact .nested hnone fun entry he => absurd he List.not_mem_nil

theorem leaf_of_mem_leavesOf : ∀ {entries : Entries} {leaf : Leaf}, leaf ∈ leavesOf entries →
    ∀ key ∈ leaf.path.getLast?,
      hasSigil key = true ∨ leaf.value.record? = none ∨ leaf.value = .record [] := by
  intro entries
  induction entries using Value.induct_entries with
  | step entries ih =>
    intro leaf hm key hk
    obtain ⟨⟨name, value⟩, he, hl⟩ := Pattern.mem_leavesOf.mp hm
    rcases Pattern.leavesUnder_cases name value with ⟨nested, rfl, -, -, hunder⟩ | ⟨hleaf, hunder⟩
    · rw [hunder] at hl
      obtain ⟨below, hbelow, rfl⟩ := List.mem_map.mp hl
      rw [Leaf.under, List.getLast?_append_of_ne_nil _
        (Pattern.path_ne_nil_of_mem_leavesOf hbelow)] at hk
      exact ih name nested he hbelow key hk
    · rw [hunder, List.mem_singleton] at hl
      subst hl
      rcases hleaf with hs | hrest
      · rw [Pattern.keyPath_of_hasSigil hs, List.getLast?_singleton, Option.mem_some] at hk
        exact Or.inl (hk ▸ hs)
      · exact Or.inr hrest

theorem transformFreeLeaf_of_tests (hreg : registry.Marked) {entries : Entries} {leaf : Leaf}
    (hm : leaf ∈ leavesOf entries) (ht : registry.Tests leaf) : registry.TransformFreeLeaf leaf :=
  fun key hk => transformFreeAt_of_leaf hreg (leaf_of_mem_leavesOf hm key hk) (ht key hk)

/-- **Separated leaves are tested one by one.** -/
theorem passes_iff_holdsAt (hreg : registry.Marked) : ∀ {entries : Entries},
    (∀ entry ∈ entries, keyPath entry.1 = [entry.1]) →
      (∀ leaf ∈ leavesOf entries, Placed leaf ∧ registry.TransformFreeLeaf leaf) →
        Separated (leavesOf entries) →
          (∀ entry ∈ entries, registry.TransformFreeAt entry.1 entry.2) ∧
            ∀ subject scope, (∀ entry ∈ entries, registry.Passes subject scope entry.1 entry.2) ↔
              ∀ leaf ∈ leavesOf entries, registry.HoldsAt subject scope leaf.path leaf.value := by
  intro entries
  induction entries using Pattern.induct with
  | nil => intro _ _ _; simp [leavesOf]
  | cons key argument rest ihNested ihRest =>
    intro hkeys hleaves hsep
    rw [List.forall_mem_cons] at hkeys
    rw [leavesOf, List.forall_mem_append] at hleaves
    rw [leavesOf] at hsep
    obtain ⟨hfree, hpass⟩ := ihRest hkeys.2 hleaves.2 hsep.right_of_append
    have hfirst : registry.TransformFreeAt key argument ∧
        ∀ subject scope, registry.Passes subject scope key argument ↔
          ∀ leaf ∈ leavesUnder key argument,
            registry.HoldsAt subject scope leaf.path leaf.value := by
      rcases Pattern.leavesUnder_cases key argument with ⟨nested, rfl, hn, hk, hl⟩ |
          ⟨-, hl⟩
      · -- a branch: the leaves of the expanded pattern below the key
        rw [hkeys.1] at hl
        rw [hl] at hleaves hsep ⊢
        obtain ⟨hp, ht⟩ := hreg key hk
        have hbelow := transformFreeLeaf_of_under hleaves.1
        have hapart : Separated (leavesOf nested) :=
          (Pattern.separated_map_under [key]).mp (hsep.sublist (List.sublist_append_left ..))
        have hperm := Pattern.perm_leavesOf_expand (fun leaf hm => (hbelow leaf hm).1) hapart
        obtain ⟨hfreeNested, hpassNested⟩ := ihNested nested rfl
          (fun entry he => Pattern.keyPath_of_mem_expand he)
          (fun leaf hm => hbelow leaf (hperm.mem_iff.mp hm)) (hapart.perm hperm.symm)
        refine ⟨.nested ht hfreeNested, fun subject scope => ?_⟩
        rw [passes_record_iff hp ht, hpassNested, forall_holdsAt_under_iff]
        exact ⟨fun h leaf hm => h leaf (hperm.mem_iff.mpr hm),
          fun h leaf hm => h leaf (hperm.mem_iff.mp hm)⟩
      · -- a leaf
        rw [hkeys.1] at hl
        rw [hl] at hleaves ⊢
        exact ⟨(List.forall_mem_singleton.mp hleaves.1).2 key rfl, fun subject scope => by
          rw [List.forall_mem_singleton]; rfl⟩
    rw [List.forall_mem_cons, leavesOf]
    refine ⟨⟨hfirst.1, hfree⟩, fun subject scope => ?_⟩
    rw [List.forall_mem_cons, List.forall_mem_append, hfirst.2, hpass]

/-- **A pattern accepts what all its leaves hold of.** -/
theorem accepts_iff_holdsAt_of_transformFreeLeaf (hreg : registry.Marked) {entries : Entries}
    (hleaves : ∀ leaf ∈ leavesOf entries, Placed leaf ∧ registry.TransformFreeLeaf leaf)
    (hsep : Separated (leavesOf entries)) (data : Value) :
    registry.accepts data (.record entries) = true ↔
      ∀ leaf ∈ leavesOf entries, registry.HoldsAt data none leaf.path leaf.value := by
  have hperm := Pattern.perm_leavesOf_expand (fun leaf hm => (hleaves leaf hm).1) hsep
  obtain ⟨hfree, hpass⟩ := passes_iff_holdsAt hreg (fun entry => Pattern.keyPath_of_mem_expand)
    (fun leaf hm => hleaves leaf (hperm.mem_iff.mp hm)) (hsep.perm hperm.symm)
  have htransform : registry.TransformFree (.record entries) := by
    rintro _ ⟨⟩
    exact hfree
  rw [accepts_iff_satisfied htransform, Satisfied, hpass]
  exact ⟨fun h leaf hm => h leaf (hperm.mem_iff.mpr hm),
    fun h leaf hm => h leaf (hperm.mem_iff.mp hm)⟩

theorem accepts_iff_holdsAt (hreg : registry.Marked) {entries : Entries}
    (hleaves : ∀ leaf ∈ leavesOf entries, Placed leaf ∧ registry.Tests leaf)
    (hsep : Separated (leavesOf entries)) (data : Value) :
    registry.accepts data (.record entries) = true ↔
      ∀ leaf ∈ leavesOf entries, registry.HoldsAt data none leaf.path leaf.value :=
  accepts_iff_holdsAt_of_transformFreeLeaf hreg (fun leaf hm =>
    ⟨(hleaves leaf hm).1, transformFreeLeaf_of_tests hreg hm (hleaves leaf hm).2⟩) hsep data

end RecordQuery.Registry

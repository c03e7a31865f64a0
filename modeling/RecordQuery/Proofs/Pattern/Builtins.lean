import RecordQuery.Pattern.Builtin
import RecordQuery.Proofs.Pattern.Conjunction
import RecordQuery.Selector

/-!
# Builtin operators in selectors

* `Registry.marked_builtins`: the builtin operators have the sigil in their names.
* `Registry.passes_equation_iff`: `$eq` is equality, unless its argument is falsy.
* `Registry.passes_combinator`: `$and`, `$or` and `$nor` depend on nothing but whether each of their
  patterns accepts the subject.
-/

namespace RecordQuery.Registry

open RecordQuery.Path (hasSigil)

variable (functions : Functions)

theorem hasSigil_of_mem_predicates :
    ∀ name ∈ Assoc.keys (Predicate.builtins functions), hasSigil name = true := by
  have hclosed : ∀ name ∈ Assoc.keys (Predicate.comparisons ++ Predicate.memberships ++
      Predicate.combinations ++ Predicate.numerics ++ Predicate.textuals ++ Predicate.forms ++
      Predicate.kinds ++ Predicate.temporals), hasSigil name = true := by decide +kernel
  rw [Predicate.builtins, Assoc.keys_append, List.forall_mem_append]
  refine ⟨hclosed, ?_⟩
  simp [Predicate.callers, hasSigil, Path.sigil]

theorem hasSigil_of_mem_transforms :
    ∀ name ∈ Assoc.keys (Transform.builtins functions), hasSigil name = true := by
  have haggregates : ∀ name ∈ Assoc.keys Transform.aggregates, hasSigil name = true := by
    decide +kernel
  have harrays : ∀ name ∈ Assoc.keys (Transform.arrays functions), hasSigil name = true := by
    simp [Transform.arrays, hasSigil, Path.sigil]
  have htextuals : ∀ name ∈ Assoc.keys Transform.textuals, hasSigil name = true := by
    decide +kernel
  have hnumerics : ∀ name ∈ Assoc.keys Transform.numerics, hasSigil name = true := by
    decide +kernel
  have hreflectives : ∀ name ∈ Assoc.keys (Transform.reflectives functions),
      hasSigil name = true := by
    simp [Transform.reflectives, hasSigil, Path.sigil]
  simp only [Transform.builtins, Assoc.keys_append, List.forall_mem_append]
  exact ⟨⟨⟨⟨haggregates, harrays⟩, htextuals⟩, hnumerics⟩, hreflectives⟩

/-- The builtin operators have the sigil in their names. -/
theorem marked_builtins : (builtins functions).Marked := by
  intro key hk
  rw [predicate?, transform?, Assoc.get?_eq_none_iff, Assoc.get?_eq_none_iff]
  constructor
  · intro hm
    rw [hasSigil_of_mem_predicates functions key hm] at hk
    cases hk
  · intro hm
    rw [hasSigil_of_mem_transforms functions key hm] at hk
    cases hk

theorem passes_equation_iff (subject : Value) (scope : Option Scope) (literal : Value) :
    (builtins functions).Passes subject scope "$eq" literal ↔
      literal.isTruthy = false ∨ (subject == literal) = true := by
  have h : (builtins functions).predicate? "$eq" = some (.typed fun a b => a == b) := rfl
  rw [passes_of_predicate_iff h, Bool.or_eq_true]
  simp [Predicate.ignores, Predicate.typed]

theorem matchEach?_array (registry : Registry) (subject : Value) (scope : Option Scope)
    (items : List Value) :
    Predicate.matchEach? subject (.array items) (registry.surroundings scope (.array items)) =
      some (items.map (registry.accepts subject)) := by
  simp [Predicate.matchEach?, surroundings]

/-- The combinators depend only on which of their patterns accept the subject. -/
theorem passes_combinator {key : String} (hk : key ∈ Selector.combinators) :
    ∃ combine : List Bool → Bool, ∀ (subject : Value) (scope : Option Scope) (items : List Value),
      (builtins functions).Passes subject scope key (.array items) ↔
        combine (items.map ((builtins functions).accepts subject)) = true := by
  have hlogic : ∃ combine : List Bool → Bool, (builtins functions).predicate? key =
      some ⟨.typed, fun a b around => (Predicate.matchEach? a b around).any combine⟩ := by
    simp only [Selector.combinators, List.mem_cons, List.not_mem_nil, or_false] at hk
    rcases hk with rfl | rfl | rfl
    · exact ⟨fun results => results.all id, rfl⟩
    · exact ⟨fun results => results.any id, rfl⟩
    · exact ⟨fun results => !results.any id, rfl⟩
  obtain ⟨combine, hp⟩ := hlogic
  refine ⟨combine, fun subject scope items => ?_⟩
  rw [passes_of_predicate_iff hp]
  simp [Predicate.ignores, Value.isTruthy, matchEach?_array]

end RecordQuery.Registry

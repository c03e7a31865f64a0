import RecordQuery.Proofs.Pattern.Combination
import RecordQuery.Proofs.Pattern.Expansion

/-!
# Dotted patterns and dotted lookup

A pattern under a dotted key comes to its value through one record of the key after the other;
lookup follows the segments of the key through records and arrays.  Both come to the same value, and
where lookup finds none the pattern is given the missing value: a field of what is missing, or of
what holds no fields, is missing itself.

* `Value.along_eq_follow?`: the fields along a path, and what lookup finds.
* `Registry.accepts_atKey_of_literal`: a literal under a key.
* `Registry.placelessPattern_of_transformFree`: only `$test` asks where its subject stands.
* `Registry.accepts_dotted`: a pattern under a dotted key tests what lookup finds.
-/

namespace RecordQuery

open RecordQuery.Path (hasSigil)

namespace Value

theorem along_undefined (path : List String) : Value.undefined.along path = .undefined := by
  induction path with
  | nil => rfl
  | cons key path ih => exact ih

/-- **The fields along a path lead to what lookup finds**, or to the missing value. -/
theorem along_eq_follow? : ∀ (path : List String) (data : Value),
    data.along path = (data.follow? path).getD .undefined := by
  intro path
  induction path with
  | nil => intro data; rfl
  | cons key path ih =>
    intro data
    show (data.field key).along path = _
    rw [follow?]
    cases hg : data.get? key with
    | none => rw [field_of_get?_eq_none hg, along_undefined, Option.bind_none, Option.getD_none]
    | some child => rw [field_of_get? hg, ih, Option.bind_some]

end Value

namespace Registry

variable {registry : Registry}

/-- A literal under a key is compared with the field as with a root. -/
theorem accepts_atKey_of_literal {key : String}
    (hkey : ∀ segment ∈ Pattern.keyPath key, registry.isOperator segment = false)
    {literal : Value} (hr : literal.record? = none) (data : Value) :
    registry.accepts data (.record [(key, literal)]) =
      registry.accepts (data.along (Pattern.keyPath key)) literal := by
  obtain ⟨holder, place, last, hlast, halong, hrun⟩ := isSome_run_mergeAt literal
    (Pattern.keyPath_ne_nil key) hkey (fun _ => Pattern.keyPath_of_mem) data none
  obtain ⟨hp, ht⟩ := isOperator_eq_false_iff.mp (hkey last hlast)
  rw [accepts_record, Pattern.expand_singleton_eq, hrun, registry.accepts_of_literal hr, halong,
    run_cons, step_of_literal hp ht hr]
  cases holder.field last == literal <;> simp

/-! ### Builtin operators -/

variable {functions : Functions}

theorem placeless_of_transformFreeAt {key : String} {argument : Value}
    (h : (builtins functions).TransformFreeAt key argument) (hne : key ≠ "$test") :
    (builtins functions).Placeless key := by
  refine ⟨fun predicate hp => ?_, fun hnone => ?_⟩
  · exact Predicate.placeless_of_mem_builtins (Assoc.mem_of_get? hp) hne
  · cases h with
    | predicate hp => rw [hnone] at hp; cases hp
    | nested ht => exact ht
    | literal ht => exact ht

theorem placelessPattern_of_transformFree {pattern : Entries}
    (h : (builtins functions).TransformFree (.record pattern))
    (htest : "$test" ∉ Assoc.keys pattern) : (builtins functions).PlacelessPattern pattern := by
  intro entry he
  refine placeless_of_transformFreeAt (h pattern rfl entry he) fun heq => htest ?_
  exact Pattern.mem_keys_of_mem_keys_expand rfl (heq ▸ List.mem_map_of_mem he)

/-- **A pattern under a dotted key tests what lookup along the key finds**, and the missing value
where it finds none: through records and through the items of arrays, and also where the way ends
too early, in a scalar or in nothing. -/
theorem accepts_dotted {path : String} (hs : hasSigil path = false)
    (hpath : ∀ segment ∈ Path.segments path, (builtins functions).isOperator segment = false)
    {pattern : Value} (hfree : (builtins functions).TransformFree pattern)
    (htest : ∀ entries ∈ pattern.record?, "$test" ∉ Assoc.keys entries) (data : Value) :
    (builtins functions).accepts data (.record [(path, pattern)]) =
      (builtins functions).accepts ((data.getPath? path).getD .undefined) pattern := by
  have hsegments := Pattern.keyPath_of_hasSigil_eq_false hs
  rw [← hsegments] at hpath
  rw [Value.getPath?, ← Value.along_eq_follow?, ← hsegments]
  cases hr : pattern.record? with
  | none => exact accepts_atKey_of_literal hpath hr data
  | some entries =>
    obtain rfl := Value.record?_eq_some_iff.mp hr
    exact accepts_atKey hpath (placelessPattern_of_transformFree hfree (htest entries hr)) data

/-- An item of an array, and a field of what holds no fields. -/
theorem accepts_dotted_item :
    let registry := builtins fun _ _ => .undefined
    let pattern : Value := .record [("$ne", .string "y")]
    let data : Value := .record [("a", .array [.string "x"])]
    registry.TransformFree pattern ∧ registry.accepts data (.record [("a.0", pattern)]) = true ∧
      registry.accepts data (.record [("a.0.b", pattern)]) = true := by
  intro registry pattern data
  have hexpand : Pattern.expand [("$ne", .string "y")] = [("$ne", .string "y")] := by rfl
  have hfree : registry.TransformFree pattern := by
    rintro _ ⟨⟩
    rw [hexpand, List.forall_mem_singleton]
    exact .predicate rfl
  have htest : ∀ entries ∈ pattern.record?, "$test" ∉ Assoc.keys entries := by
    rintro _ ⟨⟩
    decide
  have hfield : ∀ segment ∈ ["a", "0", "b"], registry.isOperator segment = false := by
    simp only [List.forall_mem_cons, List.not_mem_nil, false_implies, implies_true, and_true]
    exact ⟨rfl, rfl, rfl⟩
  have hitem : ∀ segment ∈ Path.segments "a.0", registry.isOperator segment = false :=
    fun segment hs => hfield segment (List.mem_append_left ["b"] hs)
  have hnone : ∀ segment ∈ Path.segments "a.0.b", registry.isOperator segment = false := hfield
  refine ⟨hfree, ?_, ?_⟩
  · rw [accepts_dotted (by decide) hitem hfree htest, accepts_of_predicate rfl rfl rfl]
    rfl
  · rw [accepts_dotted (by decide) hnone hfree htest, accepts_of_predicate rfl rfl rfl]
    rfl

end Registry

end RecordQuery

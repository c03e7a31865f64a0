import RecordQuery.Pattern.Engine
import RecordQuery.Proofs.Value.Parts

/-!
# One entry of a pattern

`Registry.run` takes the entries of a pattern one after the other.  Here the effect of a single
entry is a function of its own, and a run is a chain of such effects.

* `Registry.surroundings`: what the operator under a key sees of the evaluation.
* `Registry.step`: the effect of one entry.
* `Registry.run_cons`: a run is the effect of the first entry followed by a run of the others.
* `Registry.step_cases`: everything that one entry can do.
* `Pattern.induct`: induction over patterns, with the hypothesis for the entries that follow and for
  the nested pattern with its dotted keys written out.
* `Pattern.induct_consulted`: the same, with the hypothesis for whatever an operator can match.
-/

namespace RecordQuery

namespace Pattern

open Value (weight weightEntries)

/-- Induction over the entries of a pattern and, written out, over the patterns under its keys. -/
theorem induct {motive : List (String × Value) → Prop} (nil : motive [])
    (cons : ∀ key argument rest,
      (∀ nested, argument = .record nested → motive (expand nested)) → motive rest →
      motive ((key, argument) :: rest)) :
    ∀ entries, motive entries := by
  intro entries
  cases entries with
  | nil => exact nil
  | cons entry rest =>
    obtain ⟨key, argument⟩ := entry
    exact cons key argument rest (fun nested _ => induct nil cons (expand nested))
      (induct nil cons rest)
termination_by entries => weightEntries entries
decreasing_by
  · have hw := weight_expand_le nested
    have hk := length_keyPath_pos key
    subst_vars
    simp only [weightEntries, weight]
    omega
  · have hk := length_keyPath_pos key
    subst_vars
    simp only [weightEntries]
    omega

/-- Induction over the entries of a pattern and, written out, over all patterns that weigh no more
than the argument under a key: those that an operator can match. -/
theorem induct_consulted {motive : List (String × Value) → Prop} (nil : motive [])
    (cons : ∀ key argument rest,
      (∀ inner, weightEntries inner ≤ weight argument → motive (expand inner)) → motive rest →
      motive ((key, argument) :: rest)) :
    ∀ entries, motive entries := by
  intro entries
  cases entries with
  | nil => exact nil
  | cons entry rest =>
    obtain ⟨key, argument⟩ := entry
    exact cons key argument rest (fun inner _ => induct_consulted nil cons (expand inner))
      (induct_consulted nil cons rest)
termination_by entries => weightEntries entries
decreasing_by
  · have hw := weight_expand_le inner
    have hk := length_keyPath_pos key
    subst_vars
    simp only [weightEntries]
    omega
  · have hk := length_keyPath_pos key
    subst_vars
    simp only [weightEntries]
    omega

end Pattern

namespace Outcome

@[simp] theorem unchanged_value (subject : Value) : (unchanged subject).value = subject := rfl

@[simp] theorem unchanged_assignments (subject : Value) :
    (unchanged subject).assignments = [] := rfl

@[simp] theorem unchanged_edits (subject : Value) : (unchanged subject).edits = [] := rfl

@[simp] theorem unchanged_followedBy (subject : Value) (second : Outcome) :
    (unchanged subject).followedBy second = second := rfl

@[simp] theorem followedBy_value (first second : Outcome) :
    (first.followedBy second).value = second.value := rfl

@[simp] theorem followedBy_assignments (first second : Outcome) :
    (first.followedBy second).assignments = first.assignments ++ second.assignments := rfl

@[simp] theorem followedBy_edits (first second : Outcome) :
    (first.followedBy second).edits = first.edits ++ second.edits := rfl

end Outcome

theorem Projection.edits_of_inField {projection : Projection} {subject options : Value}
    {place : Scope} {outcome : Outcome}
    (h : projection.inField subject options place = some outcome) :
    outcome.value = subject ∧ outcome.edits = [] := by
  unfold Projection.inField at h
  split at h <;> cases h <;> exact ⟨rfl, rfl⟩

namespace Registry

variable (registry : Registry)

/-- What the operator of an entry sees: the place of the subject, and the engine itself. -/
def surroundings (scope : Option Scope) (argument : Value) : Surroundings argument.weight :=
  { property := scope.map (·.property)
    holder := scope.map (·.holder)
    accepts := fun value pattern _ => registry.accepts value pattern }

/-- The effect of one entry of a pattern on a subject; `none` if it does not match. -/
def step (subject : Value) (scope : Option Scope) (key : String) (argument : Value) :
    Option Outcome :=
  match registry.predicate? key with
  | some predicate =>
    if predicate.ignores argument ||
        predicate.test subject argument (registry.surroundings scope argument) then
      some (.unchanged subject)
    else none
  | none =>
    match registry.transform? key with
    | some transform =>
      (transform.apply subject argument (registry.surroundings scope argument)).effect
        subject argument scope
    | none =>
      match argument with
      | .record nested =>
        (registry.run (subject.field key) (some ⟨key, subject⟩) (Pattern.expand nested)).map
          fun inner => inner.absorb subject key (subject.field key)
      | literal => if subject.field key == literal then some (.unchanged subject) else none

@[simp] theorem run_nil (subject : Value) (scope : Option Scope) :
    registry.run subject scope [] = some (.unchanged subject) := by rw [run]

theorem evaluate?_record (data : Value) (entries : Entries) :
    registry.evaluate? data (.record entries) =
      (registry.run data none (Pattern.expand entries)).map fun outcome =>
        { value := outcome.value, edits := outcome.edits } := by rw [evaluate?]

theorem accepts_record (data : Value) (entries : Entries) :
    registry.accepts data (.record entries) =
      (registry.run data none (Pattern.expand entries)).isSome := by
  rw [accepts, evaluate?_record, Option.isSome_map]

theorem evaluate?_of_literal {data literal : Value} (h : literal.record? = none) :
    registry.evaluate? data literal =
      if data == literal then some { value := data, edits := [] } else none := by
  cases literal with
  | record => cases h
  | _ => rw [evaluate?]; simp

theorem accepts_of_literal {data literal : Value} (h : literal.record? = none) :
    registry.accepts data literal = (data == literal) := by
  rw [accepts, registry.evaluate?_of_literal h]
  split <;> simp_all

theorem mk_surroundings (scope : Option Scope) (argument : Value) :
    Surroundings.mk (scope.map (·.property)) (scope.map (·.holder))
      (fun value pattern (hpattern : pattern.weight ≤ argument.weight) =>
        match pattern, hpattern with
        | .record entries, _ => (registry.run value none (Pattern.expand entries)).isSome
        | literal, _ => value == literal) = registry.surroundings scope argument := by
  rw [surroundings]
  congr 1
  funext value pattern _
  cases pattern with
  | record entries => exact (registry.accepts_record value entries).symm
  | _ => exact (registry.accepts_of_literal rfl).symm

/-- **A run is its first entry followed by a run of the others.** -/
theorem run_cons (subject : Value) (scope : Option Scope) (key : String) (argument : Value)
    (rest : Entries) :
    registry.run subject scope ((key, argument) :: rest) =
      (registry.step subject scope key argument).bind fun first =>
        (registry.run first.value scope rest).map first.followedBy := by
  have hsame : (Outcome.unchanged subject).followedBy = id := rfl
  rw [run.eq_def]
  dsimp -zeta only
  extract_lets around
  have h : around = registry.surroundings scope argument := registry.mk_surroundings scope argument
  rw [h]
  unfold step
  cases registry.predicate? key with
  | some predicate => dsimp only; split <;> simp [hsame]
  | none =>
    cases registry.transform? key with
    | some transform => dsimp only; cases Projection.effect .. <;> rfl
    | none =>
      cases argument with
      | record nested => dsimp only; cases registry.run _ _ (Pattern.expand nested) <;> rfl
      | _ => dsimp only; split <;> simp [hsame]

theorem run_cons_eq_some {subject : Value} {scope : Option Scope} {key : String} {argument : Value}
    {rest : Entries} {outcome : Outcome}
    (h : registry.run subject scope ((key, argument) :: rest) = some outcome) :
    ∃ first second, registry.step subject scope key argument = some first ∧
      registry.run first.value scope rest = some second ∧ outcome = first.followedBy second := by
  rw [run_cons] at h
  obtain ⟨first, hfirst, h⟩ := Option.bind_eq_some_iff.1 h
  obtain ⟨second, hsecond, h⟩ := Option.map_eq_some_iff.1 h
  exact ⟨first, second, hfirst, hsecond, h.symm⟩

section Branches

variable {registry} {subject : Value} {scope : Option Scope} {key : String} {argument : Value}

theorem step_of_predicate {predicate : Predicate} (h : registry.predicate? key = some predicate) :
    registry.step subject scope key argument =
      if predicate.ignores argument ||
          predicate.test subject argument (registry.surroundings scope argument) then
        some (.unchanged subject)
      else none := by
  simp [step, h]

theorem step_of_transform {transform : Transform} (hp : registry.predicate? key = none)
    (ht : registry.transform? key = some transform) :
    registry.step subject scope key argument =
      (transform.apply subject argument (registry.surroundings scope argument)).effect
        subject argument scope := by
  simp [step, hp, ht]

theorem step_of_record {nested : Entries} (hp : registry.predicate? key = none)
    (ht : registry.transform? key = none) :
    registry.step subject scope key (.record nested) =
      (registry.run (subject.field key) (some ⟨key, subject⟩) (Pattern.expand nested)).map
        fun inner => inner.absorb subject key (subject.field key) := by
  simp [step, hp, ht]

theorem step_of_literal (hp : registry.predicate? key = none) (ht : registry.transform? key = none)
    (hr : argument.record? = none) :
    registry.step subject scope key argument =
      if subject.field key == argument then some (.unchanged subject) else none := by
  cases argument with
  | record => cases hr
  | _ => simp [step, hp, ht]

/-- **Everything that one entry of a pattern can do.** -/
theorem step_cases {outcome : Outcome}
    (h : registry.step subject scope key argument = some outcome) :
    (∃ predicate, registry.predicate? key = some predicate ∧
      (predicate.ignores argument ||
        predicate.test subject argument (registry.surroundings scope argument)) = true ∧
      outcome = .unchanged subject) ∨
    (∃ transform, registry.predicate? key = none ∧ registry.transform? key = some transform ∧
      (transform.apply subject argument (registry.surroundings scope argument)).effect
        subject argument scope = some outcome) ∨
    (∃ nested inner, registry.predicate? key = none ∧ registry.transform? key = none ∧
      argument = .record nested ∧
      registry.run (subject.field key) (some ⟨key, subject⟩) (Pattern.expand nested) = some inner ∧
      outcome = inner.absorb subject key (subject.field key)) ∨
    (registry.predicate? key = none ∧ registry.transform? key = none ∧ argument.record? = none ∧
      (subject.field key == argument) = true ∧ outcome = .unchanged subject) := by
  cases hp : registry.predicate? key with
  | some predicate =>
    rw [step_of_predicate hp, Option.ite_none_right_eq_some, Option.some.injEq] at h
    exact .inl ⟨predicate, rfl, h.1, h.2.symm⟩
  | none =>
    cases ht : registry.transform? key with
    | some transform =>
      rw [step_of_transform hp ht] at h
      exact .inr (.inl ⟨transform, rfl, rfl, h⟩)
    | none =>
      cases hr : argument.record? with
      | some nested =>
        obtain rfl := Value.record?_eq_some_iff.mp hr
        rw [step_of_record hp ht] at h
        obtain ⟨inner, hinner, h⟩ := Option.map_eq_some_iff.1 h
        exact .inr (.inr (.inl ⟨nested, inner, rfl, rfl, rfl, hinner, h.symm⟩))
      | none =>
        rw [step_of_literal hp ht hr, Option.ite_none_right_eq_some, Option.some.injEq] at h
        exact .inr (.inr (.inr ⟨rfl, rfl, rfl, h.1, h.2.symm⟩))

end Branches

end Registry

end RecordQuery

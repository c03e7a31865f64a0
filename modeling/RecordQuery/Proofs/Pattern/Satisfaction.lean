import RecordQuery.Proofs.Pattern.Step

/-!
# Patterns that only test

A pattern without transforms is a test: evaluation either fails or hands the data back as they are.

* `Registry.TransformFree`: no key that the evaluation of a pattern comes to is that of a transform.
* `Registry.Passes`, `Registry.Satisfied`: what it means to pass an entry and to satisfy a pattern,
  without an evaluation.
* `Registry.Reordered`: the same entries in another order, at any depth.
* `Registry.evaluate?_of_transformFree`: evaluation is satisfaction, it changes nothing, and the
  order of the entries does not matter.
-/

namespace RecordQuery.Registry

variable (registry : Registry)

/-! ### Satisfaction -/

/-- The entries that a subject at some place passes. -/
inductive Passes : Value → Option Scope → String → Value → Prop
  /-- The predicate asserts nothing. -/
  | ignored {subject scope key argument predicate} : registry.predicate? key = some predicate →
      predicate.ignores argument = true → Passes subject scope key argument
  /-- The predicate holds of the subject. -/
  | test {subject scope key argument predicate} : registry.predicate? key = some predicate →
      predicate.test subject argument (registry.surroundings scope argument) = true →
        Passes subject scope key argument
  /-- The field passes all entries of the nested pattern. -/
  | nested {subject scope key nested} : registry.predicate? key = none →
      registry.transform? key = none →
        (∀ entry ∈ Pattern.expand nested,
          Passes (subject.field key) (some ⟨key, subject⟩) entry.1 entry.2) →
          Passes subject scope key (.record nested)
  /-- The field is equal to the literal. -/
  | literal {subject scope key argument} : registry.predicate? key = none →
      registry.transform? key = none → argument.record? = none →
        (subject.field key == argument) = true → Passes subject scope key argument

/-- Whether data satisfy a pattern: they pass all its entries, or are equal to it. -/
def Satisfied (data : Value) : (pattern : Value) → Prop
  | .record entries => ∀ entry ∈ Pattern.expand entries, registry.Passes data none entry.1 entry.2
  | literal => (data == literal) = true

/-- The entries in which the evaluation comes to no transform. -/
inductive TransformFreeAt : String → Value → Prop
  /-- What a predicate does with its argument is its own business. -/
  | predicate {key argument predicate} : registry.predicate? key = some predicate →
      TransformFreeAt key argument
  | nested {key nested} : registry.transform? key = none →
      (∀ entry ∈ Pattern.expand nested, TransformFreeAt entry.1 entry.2) →
        TransformFreeAt key (.record nested)
  | literal {key argument} : registry.transform? key = none → argument.record? = none →
      TransformFreeAt key argument

/-- The evaluation of the pattern comes to no transform. -/
def TransformFree (pattern : Value) : Prop :=
  ∀ entries ∈ pattern.record?, ∀ entry ∈ Pattern.expand entries,
    registry.TransformFreeAt entry.1 entry.2

/-- The same entries in another order, also in the patterns nested in them. -/
inductive Reordered : Entries → Entries → Prop
  | perm {entries other : Entries} : entries.Perm other → Reordered entries other
  | nested {key : String} {nested other rest : Entries} : registry.predicate? key = none →
      Reordered (Pattern.expand nested) (Pattern.expand other) →
        Reordered ((key, .record nested) :: rest) ((key, .record other) :: rest)
  | trans {first second third : Entries} : Reordered first second → Reordered second third →
      Reordered first third

/-! ### Evaluation is satisfaction -/

variable {registry}

theorem passes_of_predicate_iff {subject : Value} {scope : Option Scope} {key : String}
    {argument : Value} {predicate : Predicate} (h : registry.predicate? key = some predicate) :
    registry.Passes subject scope key argument ↔
      (predicate.ignores argument ||
        predicate.test subject argument (registry.surroundings scope argument)) = true := by
  rw [Bool.or_eq_true]
  constructor
  · intro hp
    cases hp with
    | ignored hk hi => rw [h] at hk; cases hk; exact Or.inl hi
    | test hk ht => rw [h] at hk; cases hk; exact Or.inr ht
    | nested hk => rw [h] at hk; cases hk
    | literal hk => rw [h] at hk; cases hk
  · rintro (hi | ht)
    · exact .ignored h hi
    · exact .test h ht

theorem passes_record_iff {subject : Value} {scope : Option Scope} {key : String}
    {nested : Entries} (hp : registry.predicate? key = none)
    (ht : registry.transform? key = none) :
    registry.Passes subject scope key (.record nested) ↔
      ∀ entry ∈ Pattern.expand nested,
        registry.Passes (subject.field key) (some ⟨key, subject⟩) entry.1 entry.2 := by
  constructor
  · intro h
    cases h with
    | ignored hk => rw [hp] at hk; cases hk
    | test hk => rw [hp] at hk; cases hk
    | nested _ _ hall => exact hall
    | literal _ _ hr => cases hr
  · exact .nested hp ht

theorem passes_literal_iff {subject : Value} {scope : Option Scope} {key : String}
    {argument : Value} (hp : registry.predicate? key = none) (ht : registry.transform? key = none)
    (hr : argument.record? = none) :
    registry.Passes subject scope key argument ↔ (subject.field key == argument) = true := by
  constructor
  · intro h
    cases h with
    | ignored hk => rw [hp] at hk; cases hk
    | test hk => rw [hp] at hk; cases hk
    | nested => cases hr
    | literal _ _ _ heq => exact heq
  · exact .literal hp ht hr

/-- Writing back a copy that is the field itself changes nothing, be it NaN or missing. -/
theorem writeBack_field (subject : Value) (key : String) :
    (if subject.field key == subject.field key then subject
      else subject.setField key (subject.field key)) = subject := by
  cases hg : subject.get? key with
  | none => rw [Value.field_of_get?_eq_none hg]; rfl
  | some child => rw [Value.field_of_get? hg, Value.setField_of_get? hg, ite_self]

theorem absorb_unchanged (subject : Value) (key : String) :
    (Outcome.unchanged (subject.field key)).absorb subject key (subject.field key) =
      .unchanged subject := by
  rw [Outcome.absorb, Outcome.unchanged_value, writeBack_field]
  rfl

/-- **A run without transforms passes all entries and leaves the subject alone.** -/
theorem run_eq_some_iff : ∀ {entries : Entries} {subject : Value} {scope : Option Scope}
    {outcome : Outcome}, (∀ entry ∈ entries, registry.TransformFreeAt entry.1 entry.2) →
      (registry.run subject scope entries = some outcome ↔
        (∀ entry ∈ entries, registry.Passes subject scope entry.1 entry.2) ∧
          outcome = .unchanged subject) := by
  intro entries
  induction entries using Pattern.induct with
  | nil =>
    intro subject scope outcome _
    rw [run_nil, Option.some.injEq, eq_comm]
    simp
  | cons key argument rest ihNested ihRest =>
    intro subject scope outcome hfree
    rw [List.forall_mem_cons] at hfree
    obtain ⟨hfirst, hrest⟩ := hfree
    -- an entry that passes leaves the subject to the others
    have hstep : ∀ first, registry.step subject scope key argument = some first ↔
        registry.Passes subject scope key argument ∧ first = .unchanged subject := by
      intro first
      cases hp : registry.predicate? key with
      | some predicate =>
        rw [step_of_predicate hp, passes_of_predicate_iff hp, Option.ite_none_right_eq_some,
          Option.some.injEq, eq_comm (a := first)]
      | none =>
        cases hfirst with
        | predicate hk => rw [hp] at hk; cases hk
        | @nested _ nested ht hall =>
          rw [step_of_record hp ht, passes_record_iff hp ht, Option.map_eq_some_iff]
          constructor
          · rintro ⟨inner, hinner, rfl⟩
            obtain ⟨hpass, rfl⟩ := (ihNested nested rfl hall).mp hinner
            exact ⟨hpass, absorb_unchanged subject key⟩
          · rintro ⟨hpass, rfl⟩
            exact ⟨_, (ihNested nested rfl hall).mpr ⟨hpass, rfl⟩, absorb_unchanged subject key⟩
        | literal ht hr =>
          rw [step_of_literal hp ht hr, passes_literal_iff hp ht hr, Option.ite_none_right_eq_some,
            Option.some.injEq, eq_comm (a := first)]
    rw [run_cons, List.forall_mem_cons, Option.bind_eq_some_iff]
    constructor
    · rintro ⟨first, hf, hmap⟩
      obtain ⟨hpass, rfl⟩ := (hstep first).mp hf
      obtain ⟨second, hsecond, rfl⟩ := Option.map_eq_some_iff.mp hmap
      obtain ⟨hall, rfl⟩ := (ihRest hrest).mp hsecond
      exact ⟨⟨hpass, hall⟩, rfl⟩
    · rintro ⟨⟨hpass, hall⟩, rfl⟩
      exact ⟨_, (hstep _).mpr ⟨hpass, rfl⟩,
        Option.map_eq_some_iff.mpr ⟨_, (ihRest hrest).mpr ⟨hall, rfl⟩, rfl⟩⟩

theorem evaluate?_eq_some_iff {data pattern : Value} (h : registry.TransformFree pattern)
    (found : Evaluation) :
    registry.evaluate? data pattern = some found ↔
      registry.Satisfied data pattern ∧ found = ⟨data, []⟩ := by
  cases hr : pattern.record? with
  | some entries =>
    obtain rfl := Value.record?_eq_some_iff.mp hr
    rw [evaluate?, Option.map_eq_some_iff, Satisfied]
    constructor
    · rintro ⟨outcome, hrun, rfl⟩
      obtain ⟨hpass, rfl⟩ := (run_eq_some_iff (h entries rfl)).mp hrun
      exact ⟨hpass, rfl⟩
    · rintro ⟨hpass, rfl⟩
      exact ⟨_, (run_eq_some_iff (h entries rfl)).mpr ⟨hpass, rfl⟩, rfl⟩
  | none =>
    have hsat : registry.Satisfied data pattern ↔ (data == pattern) = true := by
      cases pattern with
      | record => cases hr
      | _ => exact Iff.rfl
    rw [registry.evaluate?_of_literal hr, hsat, Option.ite_none_right_eq_some, Option.some.injEq,
      eq_comm (a := found)]

theorem accepts_iff_satisfied {data pattern : Value} (h : registry.TransformFree pattern) :
    registry.accepts data pattern = true ↔ registry.Satisfied data pattern := by
  rw [accepts, Option.isSome_iff_exists]
  constructor
  · rintro ⟨found, hf⟩
    exact ((evaluate?_eq_some_iff h found).mp hf).1
  · intro hs
    exact ⟨_, (evaluate?_eq_some_iff h _).mpr ⟨hs, rfl⟩⟩

/-! ### The order of the entries -/

theorem Reordered.transformFreeAt {entries other : Entries} (h : registry.Reordered entries other)
    (hfree : ∀ entry ∈ entries, registry.TransformFreeAt entry.1 entry.2) :
    ∀ entry ∈ other, registry.TransformFreeAt entry.1 entry.2 := by
  induction h with
  | perm hp => exact fun entry he => hfree entry (hp.mem_iff.mpr he)
  | trans _ _ ih₁ ih₂ => exact ih₂ (ih₁ hfree)
  | nested hp _ ih =>
    rw [List.forall_mem_cons] at hfree ⊢
    refine ⟨?_, hfree.2⟩
    cases hfree.1 with
    | predicate hk => rw [hp] at hk; cases hk
    | nested ht hall => exact .nested ht (ih hall)
    | literal _ hr => cases hr

theorem Reordered.passes_iff {entries other : Entries} (h : registry.Reordered entries other) :
    (∀ entry ∈ entries, registry.TransformFreeAt entry.1 entry.2) →
      ∀ (subject : Value) (scope : Option Scope),
        (∀ entry ∈ other, registry.Passes subject scope entry.1 entry.2) ↔
          ∀ entry ∈ entries, registry.Passes subject scope entry.1 entry.2 := by
  induction h with
  | perm hp =>
    intro _ subject scope
    exact ⟨fun hall entry he => hall entry (hp.mem_iff.mp he),
      fun hall entry he => hall entry (hp.mem_iff.mpr he)⟩
  | trans h₁ _ ih₁ ih₂ =>
    intro hfree subject scope
    exact (ih₂ (h₁.transformFreeAt hfree) subject scope).trans (ih₁ hfree subject scope)
  | nested hp _ ih =>
    intro hfree subject scope
    rw [List.forall_mem_cons] at hfree
    rw [List.forall_mem_cons, List.forall_mem_cons]
    refine and_congr_left fun _ => ?_
    cases hfree.1 with
    | predicate hk => rw [hp] at hk; cases hk
    | nested ht hall => rw [passes_record_iff hp ht, passes_record_iff hp ht, ih hall]
    | literal _ hr => cases hr

theorem Reordered.run_eq {entries other : Entries} (h : registry.Reordered entries other)
    (hfree : ∀ entry ∈ entries, registry.TransformFreeAt entry.1 entry.2) (subject : Value)
    (scope : Option Scope) :
    registry.run subject scope other = registry.run subject scope entries := by
  refine Option.ext fun outcome => ?_
  rw [run_eq_some_iff hfree, run_eq_some_iff (h.transformFreeAt hfree),
    h.passes_iff hfree subject scope]

/-- **Evaluation without transforms is a test.**  It succeeds exactly on the data that satisfy the
pattern and returns them as they are, without edits; and in whatever order the entries of the
pattern are taken, the result is the same. -/
theorem evaluate?_of_transformFree {pattern : Value} (h : registry.TransformFree pattern)
    (data : Value) :
    (∀ found, registry.evaluate? data pattern = some found ↔
      registry.Satisfied data pattern ∧ found = ⟨data, []⟩) ∧
    ∀ entries ∈ pattern.record?, ∀ other, registry.Reordered (Pattern.expand entries) other →
      registry.run data none other = registry.run data none (Pattern.expand entries) :=
  ⟨evaluate?_eq_some_iff h, fun entries he _ ho => ho.run_eq (h entries he) data none⟩

/-- A NaN two records down, which is written back although it differs from itself, and the entries
of the expanded pattern the other way round. -/
theorem evaluate?_of_transformFree_nested :
    let registry : Registry := ⟨[("$any", ⟨.flagOnly, fun _ _ _ => true⟩)], []⟩
    let data : Value := .record [("a", .record [("b", .number (0.0 / 0.0))]), ("c", .null)]
    registry.evaluate? data (.record [("a.b", .record [("$any", .null)]), ("c", .null)]) =
        some ⟨data, []⟩ ∧
      registry.run data none [("c", .null), ("a", .record [("b", .record [("$any", .null)])])] =
        registry.run data none [("a", .record [("b", .record [("$any", .null)])]),
          ("c", .null)] := by
  intro registry data
  have hexpand : Pattern.expand [("a.b", .record [("$any", .null)]), ("c", .null)] =
      [("a", .record [("b", .record [("$any", .null)])]), ("c", .null)] := by rfl
  have hb : Pattern.expand [("b", .record [("$any", .null)])] =
      [("b", .record [("$any", .null)])] := by rfl
  have hop : Pattern.expand [("$any", .null)] = [("$any", .null)] := by rfl
  have hfree : registry.TransformFree
      (.record [("a.b", .record [("$any", .null)]), ("c", .null)]) := by
    rintro entries ⟨⟩
    rw [hexpand]
    refine List.forall_mem_cons.mpr ⟨.nested rfl ?_,
      List.forall_mem_singleton.mpr (.literal rfl rfl)⟩
    rw [hb, List.forall_mem_singleton]
    refine .nested rfl ?_
    rw [hop, List.forall_mem_singleton]
    exact .predicate rfl
  have hsat : registry.Satisfied data
      (.record [("a.b", .record [("$any", .null)]), ("c", .null)]) := by
    rw [Satisfied, hexpand]
    refine List.forall_mem_cons.mpr ⟨.nested rfl rfl ?_,
      List.forall_mem_singleton.mpr (.literal rfl rfl rfl rfl)⟩
    rw [hb, List.forall_mem_singleton]
    refine .nested rfl rfl ?_
    rw [hop, List.forall_mem_singleton]
    exact .test rfl rfl
  obtain ⟨hiff, hreorder⟩ := evaluate?_of_transformFree hfree data
  refine ⟨(hiff _).mpr ⟨hsat, rfl⟩, ?_⟩
  have hswap := hreorder _ rfl
  rw [hexpand] at hswap
  exact hswap _ (.perm (.swap ..))

end RecordQuery.Registry

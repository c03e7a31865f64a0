import RecordQuery.Proofs.Pattern.Builtins
import RecordQuery.Proofs.Pattern.Leaves

/-!
# Patterns under a path

A pattern under a key is evaluated on a copy of the field, and the copy is written back when it is
not equal to the field.  Equality does not see the order of keys nor the sign of zero; a pattern
that changes nothing else is evaluated, and its edits are made known, but the field keeps what it
holds.

* `Value.atPath`: a value at the end of a path, with nothing beside it.
* `Value.writeBack`: what a field holds after a copy of it is written back.
* `Registry.Placeless`: a key under which nothing asks where the subject stands.
* `Registry.run_eq_of_scope`: a run of placeless entries is the same wherever the subject stands.
* `Registry.evaluate?_atKey`: evaluation under one key.
* `Registry.evaluate?_atPath`: evaluation at any depth.
* `Registry.evaluate?_transform`, `Registry.evaluate?_transform_root`: a transform under a key, and
  one at the root.
-/

namespace RecordQuery

namespace Value

/-- The value at the end of a path of records that hold nothing else. -/
def atPath : List String → Value → Value
  | [], v => v
  | key :: path, v => .record [(key, atPath path v)]

theorem follow?_atPath (path : List String) (v : Value) :
    follow? path (v.atPath path) = some v := by
  induction path with
  | nil => rfl
  | cons key path ih => simpa [atPath, follow?, get?, Assoc.get?] using ih

theorem atPath_injective (path : List String) : Function.Injective (atPath path) :=
  fun v w h => by
    have hv := follow?_atPath path v
    rw [h, follow?_atPath] at hv
    exact (Option.some.inj hv).symm

/-- What holds a value after a copy of it is written back: the value, if the copy is equal to it. -/
def writeBack (old copy : Value) : Value := if copy == old then old else copy

theorem beq_record_singleton (key : String) (v w : Value) :
    (Value.record [(key, v)] == Value.record [(key, w)]) = (v == w) := by
  show beq (.record [(key, v)]) (.record [(key, w)]) = beq v w
  simp [beq, entriesIn]

theorem beq_atPath (path : List String) (v w : Value) :
    (atPath path v == atPath path w) = (v == w) := by
  induction path with
  | nil => rfl
  | cons key path ih => rw [atPath, atPath, beq_record_singleton, ih]

theorem writeBack_atPath (path : List String) (old copy : Value) :
    (old.atPath path).writeBack (copy.atPath path) = (old.writeBack copy).atPath path := by
  rw [writeBack, beq_atPath, writeBack]
  split <;> rfl

theorem writeBack_writeBack (old copy : Value) :
    old.writeBack (old.writeBack copy) = old.writeBack copy := by
  by_cases h : (copy == old) = true
  · have hkept : old.writeBack copy = old := if_pos h
    rw [hkept, writeBack, ite_self]
  · have hnew : old.writeBack copy = copy := if_neg h
    rw [hnew, hnew]

end Value

/-- A test that does not ask for the place of its subject. -/
def Predicate.Placeless (predicate : Predicate) : Prop :=
  ∀ (subject argument : Value) (around other : Surroundings argument.weight),
    around.accepts = other.accepts →
      predicate.test subject argument around = predicate.test subject argument other

namespace Registry

variable {registry : Registry}

theorem isOperator_eq_false_iff {name : String} :
    registry.isOperator name = false ↔
      registry.predicate? name = none ∧ registry.transform? name = none := by
  simp [isOperator]

/-! ### Where the subject stands -/

/-- What stands under the key does not see where the subject stands: a field, or a predicate that
does not ask for it. -/
def Placeless (registry : Registry) (key : String) : Prop :=
  (∀ predicate ∈ registry.predicate? key, predicate.Placeless) ∧
    (registry.predicate? key = none → registry.transform? key = none)

theorem placeless_of_predicate {key : String} {predicate : Predicate}
    (hp : registry.predicate? key = some predicate) (h : predicate.Placeless) :
    registry.Placeless key := by
  rw [Placeless, hp]
  exact ⟨fun _ he => Option.some.inj he ▸ h, fun hn => absurd hn (by simp)⟩

theorem placeless_of_isOperator_eq_false {key : String} (h : registry.isOperator key = false) :
    registry.Placeless key := by
  obtain ⟨hp, ht⟩ := isOperator_eq_false_iff.mp h
  rw [Placeless, hp]
  exact ⟨fun _ he => absurd he (by simp), fun _ => ht⟩

theorem step_eq_of_scope {key : String} (h : registry.Placeless key) (subject : Value)
    (scope other : Option Scope) (argument : Value) :
    registry.step subject scope key argument = registry.step subject other key argument := by
  cases hp : registry.predicate? key with
  | some predicate =>
    rw [step_of_predicate hp, step_of_predicate hp, h.1 predicate hp subject argument
      (registry.surroundings scope argument) (registry.surroundings other argument) rfl]
  | none =>
    have ht := h.2 hp
    cases hr : argument.record? with
    | none => rw [step_of_literal hp ht hr, step_of_literal hp ht hr]
    | some nested =>
      obtain rfl := Value.record?_eq_some_iff.mp hr
      rw [step_of_record hp ht, step_of_record hp ht]

theorem assignments_of_step {key : String} (h : registry.isOperator key = false) {subject : Value}
    {scope : Option Scope} {argument : Value} {outcome : Outcome}
    (ho : registry.step subject scope key argument = some outcome) : outcome.assignments = [] := by
  obtain ⟨hp, ht⟩ := isOperator_eq_false_iff.mp h
  rcases step_cases ho with ⟨_, hk, -, -⟩ | ⟨_, -, hk, -⟩ | ⟨_, inner, -, -, -, -, rfl⟩ |
    ⟨-, -, -, -, rfl⟩
  · rw [hp] at hk; cases hk
  · rw [ht] at hk; cases hk
  · rfl
  · rfl

/-- **A run of placeless entries is the same wherever the subject stands.** -/
theorem run_eq_of_scope (scope other : Option Scope) : ∀ {entries : Entries},
    (∀ entry ∈ entries, registry.Placeless entry.1) → ∀ subject,
      registry.run subject scope entries = registry.run subject other entries := by
  intro entries
  induction entries with
  | nil => intro _ subject; rw [run_nil, run_nil]
  | cons entry rest ih =>
    intro h subject
    rw [List.forall_mem_cons] at h
    rw [run_cons, run_cons, step_eq_of_scope h.1 subject scope other]
    exact Option.bind_congr fun outcome _ => by rw [ih h.2]

/-- Entries that are no operators do not write to the record that holds the subject. -/
theorem assignments_of_run : ∀ {entries : Entries},
    (∀ entry ∈ entries, registry.isOperator entry.1 = false) →
      ∀ {subject : Value} {scope : Option Scope} {outcome : Outcome},
        registry.run subject scope entries = some outcome → outcome.assignments = [] := by
  intro entries
  induction entries with
  | nil =>
    intro _ subject scope outcome ho
    rw [run_nil, Option.some.injEq] at ho
    exact ho ▸ rfl
  | cons entry rest ih =>
    intro h subject scope outcome ho
    rw [List.forall_mem_cons] at h
    obtain ⟨first, second, hfirst, hsecond, rfl⟩ := registry.run_cons_eq_some ho
    rw [Outcome.followedBy_assignments, assignments_of_step h.1 hfirst, ih h.2 hsecond,
      List.append_nil]

/-! ### Under a key -/

theorem absorb_singleton {inner : Outcome} (h : inner.assignments = []) (key : String)
    (data : Value) :
    inner.absorb (.record [(key, data)]) key data =
      { value := .record [(key, data.writeBack inner.value)]
        assignments := []
        edits := inner.edits.map (.under key) } := by
  have hset : (Value.record [(key, data)]).setField key inner.value =
      .record [(key, inner.value)] := by simp [Value.setField, Assoc.insert]
  rw [Outcome.absorb, h, hset, List.map_nil, List.append_nil, Value.writeBack]
  split <;> rfl

/-- **A pattern under a key is evaluated as it is on the field.**  A value that is equal to the
field is not written back. -/
theorem evaluate?_atKey {key : String} (hkey : registry.isOperator key = false)
    (hdot : Path.isDotted key = false) {pattern : Entries}
    (hpattern : ∀ entry ∈ Pattern.expand pattern, registry.isOperator entry.1 = false)
    (data : Value) :
    registry.evaluate? (.record [(key, data)]) (.record [(key, .record pattern)]) =
      (registry.evaluate? data (.record pattern)).map fun found =>
        { value := .record [(key, data.writeBack found.value)]
          edits := found.edits.map (.under key) } := by
  obtain ⟨hp, ht⟩ := isOperator_eq_false_iff.mp hkey
  have hfield : (Value.record [(key, data)]).field key = data :=
    Value.field_of_get? (Assoc.get?_cons_self ..)
  have hplaceless : ∀ entry ∈ Pattern.expand pattern, registry.Placeless entry.1 :=
    fun entry he => placeless_of_isOperator_eq_false (hpattern entry he)
  rw [evaluate?_record, evaluate?_record,
    Pattern.expand_singleton (Pattern.isChain_eq_false_of_isDotted hdot), run_cons,
    step_of_record hp ht, hfield, run_eq_of_scope _ none hplaceless]
  cases hrun : registry.run data none (Pattern.expand pattern) with
  | none => rfl
  | some inner =>
    rw [Option.map_some, absorb_singleton (assignments_of_run hpattern hrun), Option.bind_some,
      run_nil]
    simp [Outcome.followedBy]

/-- **A pattern at the end of a path is evaluated as it is on the value there**, however long the
path is.  Its edits are those of the pattern, seen from the root; and its value stands at the end of
the path, unless it is equal to what is there. -/
theorem evaluate?_atPath {path : List String} (hpath : path ≠ [])
    (hkeys : ∀ key ∈ path, registry.isOperator key = false ∧ Path.isDotted key = false)
    {pattern : Entries}
    (hpattern : ∀ entry ∈ Pattern.expand pattern, registry.isOperator entry.1 = false)
    (data : Value) :
    registry.evaluate? (data.atPath path) ((Value.record pattern).atPath path) =
      (registry.evaluate? data (.record pattern)).map fun found =>
        { value := (data.writeBack found.value).atPath path
          edits := found.edits.map fun edit => { edit with path := path ++ edit.path } } := by
  induction path with
  | nil => exact absurd rfl hpath
  | cons key path ih =>
    obtain ⟨⟨hkey, hdot⟩, hrest⟩ := List.forall_mem_cons.mp hkeys
    cases path with
    | nil => exact evaluate?_atKey hkey hdot hpattern data
    | cons next path =>
      obtain ⟨hnext, hplain⟩ := hrest next List.mem_cons_self
      -- the pattern under the first key is the path that follows, which is no operator
      have hbelow : ∀ entry ∈ Pattern.expand [(next, (Value.record pattern).atPath path)],
          registry.isOperator entry.1 = false := by
        rw [Pattern.expand_singleton (Pattern.isChain_eq_false_of_isDotted hplain)]
        exact List.forall_mem_singleton.mpr hnext
      have hfirst := evaluate?_atKey hkey hdot hbelow (data.atPath (next :: path))
      have hothers : registry.evaluate? (data.atPath (next :: path))
          (.record [(next, (Value.record pattern).atPath path)]) = _ :=
        ih (List.cons_ne_nil _ _) hrest
      show registry.evaluate? (.record [(key, data.atPath (next :: path))])
        (.record [(key, .record [(next, (Value.record pattern).atPath path)])]) = _
      rw [hfirst, hothers, Option.map_map]
      congr 1
      funext found
      -- what is equal to the value there is kept once, and then again by every record above
      have hkept : (data.atPath (next :: path)).writeBack
          ((data.writeBack found.value).atPath (next :: path)) =
            (data.writeBack found.value).atPath (next :: path) := by
        rw [Value.writeBack_atPath, Value.writeBack_writeBack]
      show Evaluation.mk (.record [(key, _)]) (List.map _ (List.map _ found.edits)) = _
      rw [hkept, List.map_map]
      rfl

/-- A write two records down. -/
theorem evaluate?_atPath_written :
    let registry : Registry := ⟨[], [("$put", ⟨fun _ options _ => .value options⟩)]⟩
    let pattern : Value := .record [("a", .record [("$put", .string "x")])]
    registry.evaluate? ((Value.record [("a", .null)]).atPath ["k", "l"])
        (pattern.atPath ["k", "l"]) =
      some { value := (Value.record [("a", .string "x")]).atPath ["k", "l"]
             edits := [⟨["k", "l", "a"], .set (.string "x")⟩] } := by
  intro registry pattern
  have hexpand : Pattern.expand [("a", .record [("$put", .string "x")])] =
      [("a", .record [("$put", .string "x")])] := by rfl
  have hput : Pattern.expand [("$put", .string "x")] = [("$put", .string "x")] := by rfl
  have hkeys : ∀ key ∈ ["k", "l"], registry.isOperator key = false ∧
      Path.isDotted key = false := by decide
  have hplain : ∀ entry ∈ Pattern.expand [("a", .record [("$put", .string "x")])],
      registry.isOperator entry.1 = false := by
    rw [hexpand]
    exact List.forall_mem_singleton.mpr rfl
  have hfound : registry.evaluate? (.record [("a", .null)]) pattern =
      some ⟨.record [("a", .string "x")], [⟨["a"], .set (.string "x")⟩]⟩ := by
    rw [evaluate?_record, hexpand]
    simp [run_cons, step, predicate?, transform?, registry, Assoc.get?, hput, Projection.effect,
      Projection.inField, Outcome.followedBy, Outcome.absorb]
    constructor <;> rfl
  rw [evaluate?_atPath (List.cons_ne_nil _ _) hkeys hplain, hfound]
  rfl

/-- Under a key a record that is written anew with its keys in another order stays as it was,
although the edits are made known. -/
theorem evaluate?_atKey_reordered :
    let registry := builtins fun _ _ => .undefined
    let data : Value := .record [("a", .string "x"), ("b", .string "x")]
    let pattern : Entries := [("a", .record [("$drop", .bool true)]),
      ("b", .record [("$define", .record [("as", .string "a")])])]
    (∀ entry ∈ Pattern.expand pattern, registry.isOperator entry.1 = false) ∧
      registry.isOperator "k" = false ∧ Path.isDotted "k" = false ∧
        ¬ registry.evaluate? (.record [("k", data)]) (.record [("k", .record pattern)]) =
          (registry.evaluate? data (.record pattern)).map fun found =>
            { value := .record [("k", found.value)], edits := found.edits.map (.under "k") } := by
  intro registry data pattern
  have hmarked := marked_builtins fun _ _ => .undefined
  have hexpand : Pattern.expand pattern = pattern := by rfl
  have hfields : ∀ entry ∈ Pattern.expand pattern, registry.isOperator entry.1 = false := by
    rw [hexpand, List.forall_mem_cons, List.forall_mem_singleton]
    exact ⟨isOperator_eq_false_iff.mpr (hmarked "a" rfl),
      isOperator_eq_false_iff.mpr (hmarked "b" rfl)⟩
  have hdrop : registry.step data none "a" (.record [("$drop", .bool true)]) =
      some ⟨.record [("b", .string "x")], [], [⟨["a"], .delete⟩]⟩ := by
    have hoperator : ∀ subject place, registry.step subject (some place) "$drop" (.bool true) =
        some ⟨subject, [⟨place.property, .delete⟩], []⟩ := fun _ _ => rfl
    rw [step_of_record (hmarked "a" rfl).1 (hmarked "a" rfl).2,
      Pattern.expand_singleton (by decide), run_cons, hoperator, Option.bind_some, run_nil]
    rfl
  have hdefine : registry.step (.record [("b", .string "x")]) none "b"
      (.record [("$define", .record [("as", .string "a")])]) =
        some ⟨.record [("b", .string "x"), ("a", .string "x")], [],
          [⟨["a"], .set (.string "x")⟩]⟩ := by
    have hoperator : ∀ s place, registry.step (.string s) (some place) "$define"
        (.record [("as", .string "a")]) = some ⟨.string s, [⟨"a", .set (.string s)⟩], []⟩ :=
      fun _ _ => rfl
    have hfield : (Value.record [("b", .string "x")]).field "b" = .string "x" := rfl
    rw [step_of_record (hmarked "b" rfl).1 (hmarked "b" rfl).2,
      Pattern.expand_singleton (by decide), run_cons, hfield, hoperator, Option.bind_some, run_nil]
    rfl
  have hfound : registry.evaluate? data (.record pattern) =
      some ⟨.record [("b", .string "x"), ("a", .string "x")],
        [⟨["a"], .delete⟩, ⟨["a"], .set (.string "x")⟩]⟩ := by
    rw [evaluate?_record, hexpand, run_cons, hdrop, Option.bind_some, run_cons, hdefine,
      Option.bind_some, run_nil]
    rfl
  have hkey : registry.isOperator "k" = false := isOperator_eq_false_iff.mpr (hmarked "k" rfl)
  refine ⟨hfields, hkey, by decide, ?_⟩
  rw [evaluate?_atKey hkey (by decide) hfields, hfound, Option.map_some, Option.map_some,
    Option.some.injEq]
  intro h
  have hvalue := congrArg Evaluation.value h
  have hkept : data.writeBack (.record [("b", .string "x"), ("a", .string "x")]) = data := by rfl
  dsimp only at hvalue
  rw [hkept] at hvalue
  simp [data] at hvalue

/-- **A transform under a key writes to the record that holds the field.** -/
theorem evaluate?_transform (hm : registry.Marked) {key operator : String}
    (hk : Path.hasSigil key = false) (hd : Path.isDotted key = false)
    (ho : Path.hasSigil operator = true) (hp : registry.predicate? operator = none)
    {transform : Transform} (ht : registry.transform? operator = some transform)
    (argument record : Value) :
    registry.evaluate? record (.record [(key, .record [(operator, argument)])]) =
      ((transform.apply (record.field key) argument
        (registry.surroundings (some ⟨key, record⟩) argument)).inField (record.field key) argument
          ⟨key, record⟩).map fun outcome =>
        { value := assignAll record outcome.assignments
          edits := outcome.assignments.map .ofAssignment } := by
  have hfield := hm key hk
  rw [evaluate?_record, Pattern.expand_singleton (Pattern.isChain_eq_false_of_isDotted hd),
    run_cons, step_of_record hfield.1 hfield.2,
    Pattern.expand_singleton (Pattern.isChain_eq_false_of_hasSigil ho), run_cons,
    step_of_transform hp ht, Projection.effect]
  cases hinner : (transform.apply (record.field key) argument
    (registry.surroundings (some ⟨key, record⟩) argument)).inField (record.field key) argument
      ⟨key, record⟩ with
  | none => rfl
  | some outcome =>
    obtain ⟨hvalue, hedits⟩ := Projection.edits_of_inField hinner
    simp only [Option.bind_some, run_nil, Option.map_some, Outcome.followedBy, Outcome.unchanged,
      Outcome.absorb, List.append_nil, List.nil_append, hvalue, hedits, List.map_nil,
      writeBack_field]

/-- **A transform at the root takes the place of the data.** -/
theorem evaluate?_transform_root {operator : String} (ho : Path.hasSigil operator = true)
    (hp : registry.predicate? operator = none) {transform : Transform}
    (ht : registry.transform? operator = some transform) (argument data : Value) :
    registry.evaluate? data (.record [(operator, argument)]) =
      ((transform.apply data argument (registry.surroundings none argument)).atRoot data
        argument).map fun outcome => { value := outcome.value, edits := outcome.edits } := by
  rw [evaluate?_record, Pattern.expand_singleton (Pattern.isChain_eq_false_of_hasSigil ho),
    run_cons, step_of_transform hp ht, Projection.effect]
  cases (transform.apply data argument
    (registry.surroundings none argument)).atRoot data argument with
  | none => rfl
  | some outcome =>
    simp only [Option.bind_some, run_nil, Option.map_some, Outcome.followedBy, Outcome.unchanged,
      List.append_nil]

end Registry

end RecordQuery

import RecordQuery.Find
import RecordQuery.Proofs.Pattern.Confined
import RecordQuery.Proofs.Transform.Filled

/-!
# Missing fields are not stored

An evaluation of data and patterns without missing fields makes none, as long as it does not write
`undefined` itself.  A projection to `undefined` is no match, so that of the builtin transforms only
`$define` can: on a missing field, with nothing truthy to put there, it writes the field as missing.

* `Registry.makes_filled_builtins`: the builtin transforms make no missing fields.
* `Registry.WritesValues`: an evaluation does not write `undefined`.
* `Value.elements`: what a query evaluates its pattern on.
* `Registry.filled_query?`, `filled_find`: what is made of many records.
* `Transform.immediate_of_mem_builtins`: only `$define` defers its writes.
* `Registry.writesValues_of_confined`: without it, nothing writes `undefined`.
* `Registry.filled_builtins`: evaluations with the builtin operators.
* `Registry.evaluate?_define_missing`: what `$define` does to a missing field.
-/

namespace RecordQuery

open RecordQuery.Path (hasSigil)
open Pattern (Confined ConfinedAt)
open Value (Filled)

theorem Value.kept_filled : Value.Kept Filled False where
  empty := by simp
  entry h he := (filled_record.mp h _ he).symm
  field h := h.field
  setField hw hv hne := hw.setField hv hne
  deleteField h := h.deleteField

/-! ### Transforms that do not defer -/

/-- The transform says at once what becomes of its subject. -/
def Transform.Immediate (transform : Transform) : Prop :=
  ∀ (subject options : Value) (around : Surroundings options.weight) writes,
    transform.apply subject options around ≠ .deferred writes

namespace Transform

@[simp] theorem immediate_ofPartial (f : (subject options : Value) → Option Value) :
    (ofPartial f).Immediate := by
  intro subject options around writes h
  simp only [ofPartial] at h
  cases hv : f subject options <;> rw [hv] at h <;> cases h

/-- **Only `$define` defers its writes.** -/
theorem immediate_of_mem_builtins {functions : Functions} {entry : String × Transform}
    (h : entry ∈ builtins functions) (hne : entry.1 ≠ "$define") : entry.2.Immediate := by
  have hpartial : ∀ entry ∈ aggregates ++ arrays functions ++ textuals ++ numerics,
      entry.2.Immediate := by
    simp only [aggregates, arrays, textuals, numerics, ofOperands, ofItems, ofTwoLists, ofText,
      ofSubject, ofUnary, ofBinary, ofTernary, List.forall_mem_append, List.forall_mem_map,
      List.forall_mem_cons, immediate_ofPartial, List.not_mem_nil, false_implies,
      implies_true, and_true]
  have hreflectives : ∀ entry ∈ reflectives functions, entry.1 ≠ "$define" → entry.2.Immediate := by
    simp only [reflectives, ofMembers, ofSubject, ofText, List.forall_mem_cons, immediate_ofPartial,
      implies_true, true_and]
    refine ⟨fun _ subject options around writes h => ?_, fun hn => absurd rfl hn,
      fun _ subject options around writes h => ?_, by simp⟩
    · -- `$default`
      dsimp only at h
      split at h <;> cases h
    · -- `$drop`
      dsimp only at h
      split at h <;> split at h <;> cases h
  rw [builtins, List.mem_append] at h
  exact h.elim (hpartial entry) fun hr => hreflectives entry hr hne

end Transform

/-- Of what is projected, only deferred writes may be writes of `undefined`. -/
theorem Projection.writesValues_of_effect {projection : Projection}
    (hp : ∀ writes, projection ≠ .deferred writes) {subject options : Value} {scope : Option Scope}
    {outcome : Outcome} (h : projection.effect subject options scope = some outcome) :
    (∀ write ∈ outcome.assignments, write.action ≠ .set .undefined) ∧
      ∀ edit ∈ outcome.edits, edit.action ≠ .set .undefined := by
  cases scope with
  | some place =>
    simp only [Projection.effect] at h
    unfold Projection.inField at h
    split at h <;> cases h
    · next v hne =>
      exact ⟨List.forall_mem_singleton.mpr fun he => hne (Action.set.inj he), by simp⟩
    · exact ⟨by simp [Outcome.unchanged], by simp [Outcome.unchanged]⟩
    · exact ⟨by simp, by simp⟩
    · next writes => exact absurd rfl (hp writes)
  | none =>
    simp only [Projection.effect] at h
    unfold Projection.atRoot at h
    split at h
    · cases h
    · cases h
    · next v hne =>
      cases h
      exact ⟨by simp, List.forall_mem_singleton.mpr fun he => hne (Action.set.inj he)⟩
    · cases h
      exact ⟨by simp [Outcome.unchanged], by simp [Outcome.unchanged]⟩
    · cases h
    · next writes => exact absurd rfl (hp writes)

namespace Registry

variable {registry : Registry} {allowed : String → Prop}

/-- The evaluation of the pattern on the data does not write `undefined`. -/
def WritesValues (registry : Registry) (pattern data : Value) : Prop :=
  ∀ found, registry.evaluate? data pattern = some found →
    ∀ edit ∈ found.edits, edit.action ≠ .set .undefined

theorem writesValues_run (hm : registry.Marked)
    (hoperator : ∀ key, hasSigil key = true → allowed key → registry.isOperator key = true)
    (himmediate : ∀ key transform, allowed key → registry.transform? key = some transform →
      transform.Immediate) : ∀ {entries : Entries} {subject : Value} {scope : Option Scope}
    {outcome : Outcome}, (∀ entry ∈ entries, ConfinedAt allowed [entry.1] entry.2) →
      registry.run subject scope entries = some outcome →
        (∀ write ∈ outcome.assignments, write.action ≠ .set .undefined) ∧
          ∀ edit ∈ outcome.edits, edit.action ≠ .set .undefined := by
  intro entries
  induction entries using Pattern.induct with
  | nil =>
    intro subject scope outcome _ h
    rw [run_nil, Option.some.injEq] at h
    subst h
    simp
  | cons key argument rest ihNested ihRest =>
    intro subject scope outcome hc h
    rw [List.forall_mem_cons] at hc
    obtain ⟨first, second, hfirst, hsecond, rfl⟩ := registry.run_cons_eq_some h
    have hrest := ihRest hc.2 hsecond
    have hf : (∀ write ∈ first.assignments, write.action ≠ .set .undefined) ∧
        ∀ edit ∈ first.edits, edit.action ≠ .set .undefined := by
      rcases step_cases hfirst with ⟨_, -, -, rfl⟩ | ⟨transform, -, ht, heff⟩ |
        ⟨nested, inner, hp, ht, rfl, hinner, rfl⟩ | ⟨-, -, -, -, rfl⟩
      · simp
      · have hs : hasSigil key = true := by
          by_contra hs
          rw [(hm key (Bool.not_eq_true _ ▸ hs)).2] at ht
          cases ht
        exact Projection.writesValues_of_effect
          (himmediate key transform (hc.1.allowed_head hs) ht _ _ _) heff
      · -- what is no operator is a field, with a pattern under it
        have hfield : hasSigil key = false := by
          by_contra hs
          rw [Bool.not_eq_false] at hs
          have hknown := hoperator key hs (hc.1.allowed_head hs)
          rw [isOperator, hp, ht] at hknown
          cases hknown
        have hnested := Pattern.confinedAt_nil_iff.mp (hc.1.tail (Or.inl hfield))
        have hin := ihNested nested rfl (fun _ => hnested.of_mem_expand) hinner
        refine ⟨by simp [Outcome.absorb], ?_⟩
        simp only [Outcome.absorb, List.forall_mem_append, List.forall_mem_map]
        exact ⟨hin.2, hin.1⟩
      · simp
    simp only [Outcome.followedBy, List.forall_mem_append]
    exact ⟨⟨hf.1, hrest.1⟩, hf.2, hrest.2⟩

/-- **Patterns whose transforms do not defer write no `undefined`.** -/
theorem writesValues_of_confined (hm : registry.Marked)
    (hoperator : ∀ key, hasSigil key = true → allowed key → registry.isOperator key = true)
    (himmediate : ∀ key transform, allowed key → registry.transform? key = some transform →
      transform.Immediate) {pattern : Value} (h : Confined allowed pattern) (data : Value) :
    registry.WritesValues pattern data := by
  intro found hf
  cases hr : pattern.record? with
  | some entries =>
    obtain rfl := Value.record?_eq_some_iff.mp hr
    rw [evaluate?_record] at hf
    obtain ⟨outcome, hrun, rfl⟩ := Option.map_eq_some_iff.mp hf
    exact (writesValues_run hm hoperator himmediate (fun _ => h.of_mem_expand) hrun).2
  | none =>
    rw [registry.evaluate?_of_literal hr, Option.ite_none_right_eq_some, Option.some.injEq] at hf
    rw [← hf.2]
    simp

/-! ### Many records -/

end Registry

/-- The elements of nested arrays, a number of levels down. -/
def Value.elements : (depth : Nat) → Value → List Value
  | depth + 1, .array items => items.flatMap (Value.elements depth)
  | _, v => [v]

namespace Registry

variable {registry : Registry}

theorem filled_evaluate? (hr : registry.Makes Filled) {data pattern : Value} (hd : data.Filled)
    (hp : pattern.Filled) (hw : registry.WritesValues pattern data) {found : Evaluation}
    (h : registry.evaluate? data pattern = some found) : found.value.Filled :=
  Value.kept_filled.evaluate? hr hd hp h (hw found h)

theorem filled_query? (hr : registry.Makes Filled) {pattern : Value} (hp : pattern.Filled) :
    ∀ (depth : Nat) {data result : Value}, data.Filled →
      (∀ element ∈ data.elements depth, registry.WritesValues pattern element) →
        registry.query? pattern depth data = some result → result.Filled := by
  have hevaluate : ∀ {data result : Value}, data.Filled → registry.WritesValues pattern data →
      (registry.evaluate? data pattern).map (·.value) = some result → result.Filled := by
    intro data result hd hw h
    obtain ⟨found, hf, rfl⟩ := Option.map_eq_some_iff.mp h
    exact filled_evaluate? hr hd hp hw hf
  intro depth
  induction depth with
  | zero =>
    intro data result hd hw h
    rw [query?] at h
    · exact hevaluate hd (hw data List.mem_cons_self) h
    · simp
  | succ depth ih =>
    intro data result hd hw h
    cases data with
    | array items =>
      rw [query?, Option.some.injEq] at h
      subst h
      rw [Value.filled_array] at hd ⊢
      intro v hv
      obtain ⟨item, hi, hq⟩ := List.mem_filterMap.mp hv
      exact ih (hd item hi) (fun _ he => hw _ (List.mem_flatMap.mpr ⟨item, hi, he⟩)) hq
    | _ =>
      rw [query?] at h
      · exact hevaluate hd (hw _ List.mem_cons_self) h
      · simp

theorem mem_evaluateEach {pattern : Option Value} {records more : List Value}
    (h : ∀ record ∈ records, record ∈ more) :
    ∀ v ∈ registry.evaluateEach pattern records, v ∈ registry.evaluateEach pattern more := by
  intro v hv
  cases pattern with
  | none => exact h v hv
  | some pattern =>
    obtain ⟨record, hm, hf⟩ := List.mem_filterMap.mp hv
    exact List.mem_filterMap.mpr ⟨record, h record hm, hf⟩

theorem filled_evaluateEach (hr : registry.Makes Filled) {pattern : Option Value}
    {records : List Value} (hd : ∀ record ∈ records, record.Filled)
    (hp : ∀ p ∈ pattern, p.Filled ∧ ∀ record ∈ records, registry.WritesValues p record) :
    ∀ v ∈ registry.evaluateEach pattern records, v.Filled := by
  intro v hv
  cases pattern with
  | none => exact hd v hv
  | some pattern =>
    obtain ⟨hfilled, hw⟩ := hp pattern rfl
    obtain ⟨record, hm, hf⟩ := List.mem_filterMap.mp hv
    obtain ⟨found, hfound, rfl⟩ := Option.map_eq_some_iff.mp hf
    exact filled_evaluate? hr (hd record hm) hfilled (hw record hm) hfound

end Registry

/-- Of the records of a store, a request finds some; it shapes and sorts them. -/
theorem filled_find {store registry : Registry} (hr : registry.Makes Filled) {request : Request}
    {records results : List Value} (hd : ∀ record ∈ records, record.Filled)
    (ht : ∀ p ∈ request.transform, p.Filled ∧ ∀ record ∈ records, registry.WritesValues p record)
    (hf : ∀ p ∈ request.filter, p.Filled ∧
      ∀ record ∈ registry.evaluateEach request.transform records, registry.WritesValues p record)
    (h : find store registry request records = .ok results) : ∀ v ∈ results, v.Filled := by
  unfold find at h
  extract_lets selector found shaped at h
  have hfound : ∀ record ∈ found, record ∈ records := fun _ hm => List.mem_of_mem_filter hm
  have hmore := @Registry.mem_evaluateEach registry request.transform found records hfound
  have htransformed :=
    Registry.filled_evaluateEach hr (fun record hm => hd record (hfound record hm))
    fun p hp => ⟨(ht p hp).1, fun record hm => (ht p hp).2 record (hfound record hm)⟩
  have hshaped : ∀ v ∈ shaped, v.Filled := Registry.filled_evaluateEach hr htransformed
    fun p hp => ⟨(hf p hp).1, fun record hm => (hf p hp).2 record (hmore record hm)⟩
  split at h
  · rw [← Except.ok.inj h]
    exact hshaped
  · unfold sortRecords at h
    cases hc : SortCriterion.ofValues request.order with
    | error e => rw [hc] at h; cases h
    | ok criteria =>
      rw [hc] at h
      rw [← Except.ok.inj h]
      exact fun v hv => hshaped v ((Order.perm_sortBy _ shaped).mem_iff.mp hv)

/-! ### The builtin operators -/

namespace Registry

theorem makes_filled_builtins {functions : Functions}
    (hf : ∀ name v, v.Filled → (functions name [v]).Filled) :
    (builtins functions).Makes Filled := by
  intro name transform ht subject options around hs ho _
  exact Transform.fills_of_mem_builtins hf _ (Assoc.mem_of_get? ht) subject options around hs ho

/-- **Missing fields are not stored, unless `undefined` is written.**  On data and with a pattern
without missing fields, an evaluation that does not write `undefined` makes none, be it on one
value, on the elements of nested arrays or on the records of a store.  With the builtin operators
but `$define`, nothing writes it. -/
theorem filled_builtins (functions : Functions)
    (hf : ∀ name v, v.Filled → (functions name [v]).Filled) :
    (∀ data pattern found, data.Filled → pattern.Filled →
      (builtins functions).WritesValues pattern data →
        (builtins functions).evaluate? data pattern = some found → found.value.Filled) ∧
    (∀ depth data pattern result, data.Filled → pattern.Filled →
      (∀ element ∈ data.elements depth, (builtins functions).WritesValues pattern element) →
        (builtins functions).query? pattern depth data = some result → result.Filled) ∧
    (∀ store request records results, (∀ record ∈ records, record.Filled) →
      (∀ p ∈ request.transform, p.Filled ∧
        ∀ record ∈ records, (builtins functions).WritesValues p record) →
      (∀ p ∈ request.filter, p.Filled ∧
        ∀ record ∈ (builtins functions).evaluateEach request.transform records,
          (builtins functions).WritesValues p record) →
        find store (builtins functions) request records = .ok results → ∀ v ∈ results, v.Filled) ∧
    ∀ pattern data,
      Confined (fun key => (builtins functions).isOperator key = true ∧ key ≠ "$define") pattern →
        (builtins functions).WritesValues pattern data := by
  have hr := makes_filled_builtins hf
  refine ⟨fun data pattern found hd hp hw h => filled_evaluate? hr hd hp hw h,
    fun depth data pattern result hd hp hw h => filled_query? hr hp depth hd hw h,
    fun store request records results hd ht hfilter h => filled_find hr hd ht hfilter h,
    fun pattern data h => ?_⟩
  refine writesValues_of_confined (marked_builtins functions) (fun _ _ ha => ha.1) ?_ h data
  intro key transform ha ht
  exact Transform.immediate_of_mem_builtins (Assoc.mem_of_get? ht) ha.2

/-- A field that is defined from an option, and the elements of an array in which a text is
trimmed. -/
theorem filled_builtins_define :
    let functions : Functions := fun _ _ => .null
    let define : Value := .record [("x", .record [("$define", .record [("value", .string "v")])])]
    let trim : Value := .record [("x", .record [("$trim", .record [])])]
    (∀ name v, v.Filled → (functions name [v]).Filled) ∧
      (∃ found, (builtins functions).evaluate? (.record []) define = some found ∧
        found.value.Filled) ∧
      ∀ result,
        (builtins functions).query? trim 1 (.array [.record [("x", .string " v")], .undefined]) =
        some result → result.Filled := by
  intro functions define trim
  have hf : ∀ name v, v.Filled → (functions name [v]).Filled := fun _ _ _ => Value.filled_null
  obtain ⟨hevaluate, hquery, -, hconfined⟩ := filled_builtins functions hf
  have hdefine : (builtins functions).evaluate? (.record []) define =
      some ⟨.record [("x", .string "v")], [⟨["x"], .set (.string "v")⟩]⟩ := by
    rw [evaluate?_transform (marked_builtins functions) (by decide) (by decide) (by decide) rfl rfl]
    rfl
  refine ⟨hf,
    ⟨_, hdefine, hevaluate _ _ _ (by simp) (by simp [define]) (fun found h => ?_) hdefine⟩,
    fun result h => hquery 1 _ _ result (by simp) (by simp [trim]) (fun _ _ => hconfined _ _ ?_) h⟩
  · rw [hdefine, Option.some.injEq] at h
    rw [← h]
    exact List.forall_mem_singleton.mpr (by simp)
  · refine .record (List.forall_mem_singleton.mpr ?_)
    rw [show Pattern.keyPath "x" = ["x"] from by decide]
    refine .cons (fun hs => absurd hs (by decide)) (fun _ => .nil ?_)
      fun hc => absurd hc (by decide)
    refine .record (List.forall_mem_singleton.mpr ?_)
    rw [show Pattern.keyPath "$trim" = ["$trim"] from by decide]
    exact .cons (fun _ => ⟨rfl, by decide⟩) (fun ho => absurd ho (by decide))
      fun hc => absurd hc (by decide)

/-- **On a missing field, `$define` writes the field as missing**, if it has nothing truthy to put
there. -/
theorem evaluate?_define_missing (functions : Functions) {key : String} (hs : hasSigil key = false)
    (hd : Path.isDotted key = false) {entries : Entries} (hk : Assoc.get? key entries = none)
    {options : Value} (hv : (options.field "value").isTruthy = false) (ha : alias? options = none) :
    (builtins functions).evaluate? (.record entries)
        (.record [(key, .record [("$define", options)])]) =
      some ⟨.record (Assoc.insert key .undefined entries), [⟨[key], .set .undefined⟩]⟩ := by
  have hmissing : (Value.record entries).field key = .undefined := Value.field_of_get?_eq_none hk
  rw [evaluate?_transform (marked_builtins functions) hs hd (by decide) rfl rfl, hmissing]
  simp only [Projection.inField, ha, Option.getD_none, Value.definedValue, hv, Option.map_some]
  rfl

/-- A field that is defined from nothing is there, and missing. -/
theorem not_filled_define :
    let functions : Functions := fun _ _ => .null
    let data : Value := .record []
    let pattern : Value := .record [("x", .record [("$define", .record [])])]
    data.Filled ∧ pattern.Filled ∧ ∃ found,
      (builtins functions).evaluate? data pattern = some found ∧ ¬ found.value.Filled := by
  intro functions data pattern
  refine ⟨by simp [data], by simp [pattern], _,
    evaluate?_define_missing functions (by decide) (by decide) rfl rfl rfl, ?_⟩
  simp [Assoc.insert]

end Registry

end RecordQuery

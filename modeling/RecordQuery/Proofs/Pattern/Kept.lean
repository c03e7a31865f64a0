import RecordQuery.Proofs.Pattern.Step

/-!
# Properties that an evaluation keeps

An evaluation takes values apart and updates fields.  A property that parts inherit and that updates
keep holds of all that it makes, as long as the transforms of its registry make such values.  Some
properties do not let a record store `undefined`; then no edit may write it.

* `Value.Kept`: a property of values that parts inherit and updates keep; `blank` says whether it
  lets a field hold `undefined`.
* `Value.Kept.expand`: the property goes over to patterns with their dotted keys written out.
* `Registry.Makes`: the transforms of a registry make values with the property of such values.
* `Registry.value_eq_undefined_of_run`: below a field, only what is missing becomes missing.
* `Value.Kept.run`: an evaluation keeps the property.
-/

namespace RecordQuery

variable {P : Value → Prop} {blank : Prop}

/-- Parts of a value inherit the property, and updates of fields keep it. -/
structure Value.Kept (P : Value → Prop) (blank : Prop) : Prop where
  empty : P (.record [])
  entry : ∀ {entries : Entries} {entry : String × Value}, P (.record entries) → entry ∈ entries →
    P entry.2 ∧ (entry.2 = .undefined → blank)
  field : ∀ {w : Value}, P w → ∀ key, P (w.field key)
  setField : ∀ {w v : Value}, P w → P v → (v = .undefined → blank) → ∀ key, P (w.setField key v)
  deleteField : ∀ {w : Value}, P w → ∀ key, P (w.deleteField key)

/-! ### Patterns -/

namespace Value.Kept

open Pattern (mergeLeaf mergeAll mergeAt mergeChains)

theorem insert (hk : Kept P blank) {entries : Entries} {value : Value} (h : P (.record entries))
    (hv : P value) (hb : value = .undefined → blank) (key : String) :
    P (.record (Assoc.insert key value entries)) := hk.setField h hv hb key

theorem inner (hk : Kept P blank) {entries : Entries} (h : P (.record entries)) (key : String) :
    P (.record (Entries.inner key entries)) := by
  unfold Entries.inner
  split
  · next nested hg => exact (hk.entry h (Assoc.mem_of_get? hg)).1
  · exact hk.empty

mutual

theorem mergeLeaf (hk : Kept P blank) {target : Entries} (ht : P (.record target)) (key : String) :
    ∀ value : Value, P value → (value = .undefined → blank) →
      P (.record (mergeLeaf target key value))
  | .record incoming => fun hv hb => by
    rw [Pattern.mergeLeaf]
    split
    · next existing hg =>
      have hexisting := (hk.entry ht (Assoc.mem_of_get? hg)).1
      exact hk.insert ht (mergeAll hk hexisting incoming fun _ => hk.entry hv)
        (fun h => by cases h) key
    · exact hk.insert ht hv hb key
  | .undefined => fun hv hb => by rw [Pattern.mergeLeaf]; exact hk.insert ht hv hb key; simp
  | .null => fun hv hb => by rw [Pattern.mergeLeaf]; exact hk.insert ht hv hb key; simp
  | .bool _ => fun hv hb => by rw [Pattern.mergeLeaf]; exact hk.insert ht hv hb key; simp
  | .number _ => fun hv hb => by rw [Pattern.mergeLeaf]; exact hk.insert ht hv hb key; simp
  | .string _ => fun hv hb => by rw [Pattern.mergeLeaf]; exact hk.insert ht hv hb key; simp
  | .date _ => fun hv hb => by rw [Pattern.mergeLeaf]; exact hk.insert ht hv hb key; simp
  | .binary _ => fun hv hb => by rw [Pattern.mergeLeaf]; exact hk.insert ht hv hb key; simp
  | .array _ => fun hv hb => by rw [Pattern.mergeLeaf]; exact hk.insert ht hv hb key; simp
  | .function _ => fun hv hb => by rw [Pattern.mergeLeaf]; exact hk.insert ht hv hb key; simp

theorem mergeAll (hk : Kept P blank) {target : Entries} (ht : P (.record target)) :
    ∀ incoming : List (String × Value),
      (∀ entry ∈ incoming, P entry.2 ∧ (entry.2 = .undefined → blank)) →
        P (.record (mergeAll target incoming))
  | [] => fun _ => ht
  | (key, value) :: rest => fun hi => by
    rw [List.forall_mem_cons] at hi
    rw [Pattern.mergeAll]
    exact mergeAll hk (mergeLeaf hk ht key value hi.1.1 hi.1.2) rest hi.2

end

theorem mergeAt (hk : Kept P blank) {value : Value} (hv : P value)
    (hb : value = .undefined → blank) :
    ∀ (path : List String) {target : Entries}, P (.record target) →
      P (.record (mergeAt target value path)) := by
  intro path
  induction path with
  | nil => intro target ht; exact ht
  | cons key path ih =>
    intro target ht
    cases path with
    | nil => exact hk.mergeLeaf ht key value hv hb
    | cons next path => exact hk.insert ht (ih (hk.inner ht key)) (fun h => by cases h) key

theorem mergeChains (hk : Kept P blank) : ∀ {pattern target : Entries}, P (.record target) →
    (∀ entry ∈ pattern, P entry.2 ∧ (entry.2 = .undefined → blank)) →
      P (.record (mergeChains target pattern)) := by
  intro pattern
  induction pattern with
  | nil => intro target ht _; exact ht
  | cons entry rest ih =>
    intro target ht hp
    rw [List.forall_mem_cons] at hp
    exact ih (hk.mergeAt hp.1.1 hp.1.2 _ ht) hp.2

theorem expand (hk : Kept P blank) {pattern : Entries} (h : P (.record pattern)) :
    P (.record (Pattern.expand pattern)) := by
  unfold Pattern.expand
  split
  · exact hk.mergeChains hk.empty fun _ => hk.entry h
  · exact h

end Value.Kept

/-! ### Writes -/

/-- The value that an action writes has the property. -/
def Action.Holds (P : Value → Prop) : Action → Prop
  | .set value => P value
  | .delete => True

/-- The values that a projection makes have the property. -/
def Projection.Holds (P : Value → Prop) : Projection → Prop
  | .value v => P v
  | .deferred writes => ∀ record key previous, P record → P previous →
      ∀ write ∈ writes record key previous, write.action.Holds P
  | _ => True

/-- The values and writes of an outcome have the property. -/
structure Outcome.Holds (P : Value → Prop) (outcome : Outcome) : Prop where
  value : P outcome.value
  assignments : ∀ write ∈ outcome.assignments, write.action.Holds P
  edits : ∀ edit ∈ outcome.edits, edit.action.Holds P

/-- Every transform makes values with the property of such values. -/
def Registry.Makes (registry : Registry) (P : Value → Prop) : Prop :=
  ∀ name transform, registry.transform? name = some transform →
    ∀ (subject options : Value) (around : Surroundings options.weight), P subject →
      P options → (∀ holder ∈ around.holder, P holder) →
        (transform.apply subject options around).Holds P

namespace Value.Kept

theorem applyAt (hk : Kept P blank) {action : Action} (h : action.Holds P)
    (hb : action = .set .undefined → blank) {target : Value} (ht : P target) (key : String) :
    P (action.applyAt key target) := by
  cases action with
  | set value => exact hk.setField ht h (fun hv => hb (by rw [hv])) key
  | delete => exact hk.deleteField ht key

theorem assignAll (hk : Kept P blank) : ∀ {writes : List Assignment} {target : Value}, P target →
    (∀ write ∈ writes, write.action.Holds P) →
      (∀ write ∈ writes, write.action = .set .undefined → blank) → P (assignAll target writes) := by
  intro writes
  induction writes with
  | nil => intro target ht _ _; exact ht
  | cons write writes ih =>
    intro target ht hw hb
    rw [List.forall_mem_cons] at hw hb
    exact ih (hk.applyAt hw.1 hb.1 ht write.key) hw.2 hb.2

end Value.Kept

namespace Outcome

theorem holds_unchanged {subject : Value} (h : P subject) : (unchanged subject).Holds P :=
  ⟨h, by simp, by simp⟩

theorem Holds.followedBy {first second : Outcome} (h₁ : first.Holds P) (h₂ : second.Holds P) :
    (first.followedBy second).Holds P := by
  refine ⟨h₂.value, fun write hw => ?_, fun edit he => ?_⟩
  · exact (List.mem_append.mp hw).elim (h₁.assignments write) (h₂.assignments write)
  · exact (List.mem_append.mp he).elim (h₁.edits edit) (h₂.edits edit)

/-- What a nested pattern makes of a field is written back unless it is what the field holds; so a
field that stays missing is not written. -/
theorem Holds.absorb {inner : Outcome} (h : inner.Holds P) (hk : Value.Kept P blank)
    {subject child : Value} (hs : P subject) {key : String}
    (hmissing : inner.value = .undefined → child = .undefined ∨ blank)
    (hb : ∀ edit ∈ (inner.absorb subject key child).edits, edit.action = .set .undefined → blank) :
    (inner.absorb subject key child).Holds P := by
  refine ⟨hk.assignAll ?_ h.assignments fun write hw => ?_, by simp [Outcome.absorb],
    fun edit he => ?_⟩
  · split
    · exact hs
    · next hne =>
      refine hk.setField hs h.value (fun hv => ?_) key
      rcases hmissing hv with hc | hblank
      · rw [hv, hc] at hne
        exact absurd rfl hne
      · exact hblank
  · exact hb (.ofAssignment write) (List.mem_append_right _ (List.mem_map_of_mem hw))
  · rcases List.mem_append.mp he with he | he
    · obtain ⟨below, hbelow, rfl⟩ := List.mem_map.mp he
      exact h.edits below hbelow
    · obtain ⟨write, hw, rfl⟩ := List.mem_map.mp he
      exact h.assignments write hw

end Outcome

theorem Projection.Holds.effect {projection : Projection} (h : projection.Holds P)
    (hk : Value.Kept P blank) {subject options : Value} {scope : Option Scope} {outcome : Outcome}
    (hs : P subject) (hscope : ∀ place ∈ scope, P place.holder)
    (he : projection.effect subject options scope = some outcome)
    (hb : ∀ edit ∈ outcome.edits, edit.action = .set .undefined → blank) : outcome.Holds P := by
  cases scope with
  | some place =>
    have hplace := hscope place rfl
    simp only [Projection.effect] at he
    unfold Projection.inField at he
    split at he <;> cases he
    · exact ⟨hs, List.forall_mem_singleton.mpr h, by simp⟩
    · exact Outcome.holds_unchanged hs
    · exact ⟨hs, List.forall_mem_singleton.mpr trivial, by simp⟩
    · exact ⟨hs, h _ _ _ hplace hs, by simp⟩
  | none =>
    simp only [Projection.effect] at he
    unfold Projection.atRoot at he
    split at he <;> try cases he
    · exact ⟨h, by simp, List.forall_mem_singleton.mpr h⟩
    · exact Outcome.holds_unchanged hs
    · split at he <;> cases he
      · next target _ _ =>
        have hw := h _ target _ hs (hk.field hs target)
        rw [List.forall_mem_map] at hb
        exact ⟨hk.assignAll hs hw hb, by simp, by simpa [Edit.ofAssignment] using hw⟩
      · exact Outcome.holds_unchanged hs

/-! ### Evaluations -/

theorem Action.applyAt_eq_undefined_iff (action : Action) (key : String) (target : Value) :
    action.applyAt key target = .undefined ↔ target = .undefined := by
  cases target with
  | array items =>
    cases action <;> simp only [Action.applyAt, Value.setField, Value.deleteField] <;>
      cases Path.index? key <;> simp
    split <;> simp
  | _ => cases action <;> simp [Action.applyAt, Value.setField, Value.deleteField]

theorem assignAll_eq_undefined_iff {writes : List Assignment} : ∀ {subject : Value},
    assignAll subject writes = .undefined ↔ subject = .undefined := by
  induction writes with
  | nil => exact Iff.rfl
  | cons write writes ih =>
    exact ih.trans (write.action.applyAt_eq_undefined_iff write.key _)

namespace Registry

variable {registry : Registry}

/-- Below a field, what is missing stays missing, and nothing else becomes missing. -/
theorem value_eq_undefined_of_run {place : Scope} : ∀ {entries : Entries} {subject : Value}
    {outcome : Outcome}, registry.run subject (some place) entries = some outcome →
      (outcome.value = .undefined ↔ subject = .undefined) := by
  intro entries
  induction entries using Pattern.induct with
  | nil =>
    intro subject outcome h
    rw [run_nil, Option.some.injEq] at h
    exact h ▸ Iff.rfl
  | cons key argument rest ihNested ihRest =>
    intro subject outcome h
    obtain ⟨first, second, hfirst, hsecond, rfl⟩ := registry.run_cons_eq_some h
    refine (ihRest hsecond).trans ?_
    rcases step_cases hfirst with ⟨_, -, -, rfl⟩ | ⟨_, -, -, heff⟩ |
      ⟨nested, inner, -, -, rfl, hinner, rfl⟩ | ⟨-, -, -, -, rfl⟩
    · exact Iff.rfl
    · rw [(Projection.edits_of_inField heff).1]
    · rw [Outcome.absorb, assignAll_eq_undefined_iff]
      split
      · exact Iff.rfl
      · exact (Action.set inner.value).applyAt_eq_undefined_iff key subject
    · exact Iff.rfl

theorem holds_holder (registry : Registry) {scope : Option Scope}
    (hscope : ∀ place ∈ scope, P place.holder) (argument : Value) :
    ∀ holder ∈ (registry.surroundings scope argument).holder, P holder := by
  intro holder hh
  obtain ⟨place, hp, rfl⟩ := Option.map_eq_some_iff.mp hh
  exact hscope place hp

end Registry

namespace Value.Kept

variable {registry : Registry}

/-- **An evaluation keeps the property.**  If it is one that lets no field hold `undefined`, none of
the edits may write it. -/
theorem run (hk : Kept P blank) (hr : registry.Makes P) : ∀ {entries : Entries} {subject : Value}
    {scope : Option Scope} {outcome : Outcome}, (∀ entry ∈ entries, P entry.2) → P subject →
      (∀ place ∈ scope, P place.holder) → registry.run subject scope entries = some outcome →
        (∀ edit ∈ outcome.edits, edit.action = .set .undefined → blank) → outcome.Holds P := by
  intro entries
  induction entries using Pattern.induct with
  | nil =>
    intro subject scope outcome _ hs _ h _
    rw [Registry.run_nil, Option.some.injEq] at h
    exact h ▸ Outcome.holds_unchanged hs
  | cons key argument rest ihNested ihRest =>
    intro subject scope outcome he hs hscope h hb
    rw [List.forall_mem_cons] at he
    obtain ⟨ha, hrest⟩ := he
    obtain ⟨first, second, hfirst, hsecond, rfl⟩ := registry.run_cons_eq_some h
    rw [Outcome.followedBy_edits, List.forall_mem_append] at hb
    have hf : first.Holds P := by
      rcases Registry.step_cases hfirst with ⟨_, -, -, rfl⟩ | ⟨transform, -, ht, heff⟩ |
        ⟨nested, inner, -, -, rfl, hinner, rfl⟩ | ⟨-, -, -, -, rfl⟩
      · exact Outcome.holds_unchanged hs
      · exact (hr _ transform ht _ _ _ hs ha
          (Registry.holds_holder registry hscope argument)).effect hk hs hscope heff hb.1
      · have hplace : ∀ place ∈ some (Scope.mk key subject), P place.holder := by
          rintro place ⟨⟩
          exact hs
        have hbelow : ∀ edit ∈ inner.edits, edit.action = .set .undefined → blank :=
          fun edit hm => hb.1 (edit.under key) (List.mem_append_left _ (List.mem_map_of_mem hm))
        have hholds := ihNested nested rfl (fun _ hm => (hk.entry (hk.expand ha) hm).1)
          (hk.field hs key) hplace hinner hbelow
        refine hholds.absorb hk hs (fun hv => ?_) hb.1
        exact Or.inl ((Registry.value_eq_undefined_of_run hinner).mp hv)
      · exact Outcome.holds_unchanged hs
    exact hf.followedBy (ihRest hrest hf.value hscope hsecond hb.2)

theorem evaluate? (hk : Kept P blank) (hr : registry.Makes P) {data pattern : Value} (hd : P data)
    (hp : P pattern) {found : Evaluation} (h : registry.evaluate? data pattern = some found)
    (hb : ∀ edit ∈ found.edits, edit.action = .set .undefined → blank) : P found.value := by
  cases hrec : pattern.record? with
  | some entries =>
    obtain rfl := Value.record?_eq_some_iff.mp hrec
    rw [Registry.evaluate?_record] at h
    obtain ⟨outcome, hrun, rfl⟩ := Option.map_eq_some_iff.mp h
    exact (hk.run hr (fun _ hm => (hk.entry (hk.expand hp) hm).1) hd (by simp) hrun hb).value
  | none =>
    rw [registry.evaluate?_of_literal hrec, Option.ite_none_right_eq_some, Option.some.injEq] at h
    exact h.2 ▸ hd

end Value.Kept

end RecordQuery

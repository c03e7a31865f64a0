import RecordQuery.Proofs.Pattern.Kept

/-!
# Distinct keys through an evaluation

Every update of a record keeps its keys distinct, so an evaluation that starts with well-formed
values meets no others, as long as the transforms of its registry make none.

* `Value.kept_wellFormed`: updates keep values well-formed.
* `Registry.WellFormed`: the transforms of a registry make well-formed values of well-formed ones.
* `Pattern.wellFormed_expand`: dotted keys written out do not repeat.
* `Registry.wellFormed_run`: values, writes and edits of an evaluation are well-formed.
* `Edit.wellFormed_applyAll`: so is what their replay makes.
-/

namespace RecordQuery

/-! ### Patterns -/

namespace Entries

/-- The entries make a well-formed record. -/
abbrev WellFormed (entries : Entries) : Prop := (Value.record entries).WellFormed

theorem wellFormed_cons {key : String} {value : Value} {rest : Entries} :
    WellFormed ((key, value) :: rest) ↔
      key ∉ Assoc.keys rest ∧ value.WellFormed ∧ WellFormed rest := by
  simp only [WellFormed, Value.wellFormed_record, Assoc.keys_cons, List.nodup_cons,
    List.forall_mem_cons]
  tauto

end Entries

/-- Updates keep the keys of all records distinct; a field may hold whatever it likes. -/
theorem Value.kept_wellFormed : Value.Kept Value.WellFormed True where
  empty := by simp
  entry h he := ⟨(wellFormed_record.mp h).2 _ he, fun _ => trivial⟩
  field h := h.field
  setField hw hv _ := hw.setField hv
  deleteField h := h.deleteField

namespace Pattern

open Entries (WellFormed)

/-- Writing dotted keys out keeps the keys distinct, at every depth. -/
theorem wellFormed_expand {pattern : Entries} (h : WellFormed pattern) :
    WellFormed (expand pattern) := Value.kept_wellFormed.expand h

end Pattern

/-! ### Writes and edits -/

/-- The value that an action writes is well-formed. -/
def Action.WellFormed : Action → Prop
  | .set value => value.WellFormed
  | .delete => True

theorem Action.WellFormed.applyAt {action : Action} (h : action.WellFormed) {target : Value}
    (ht : target.WellFormed) (key : String) : (action.applyAt key target).WellFormed :=
  Value.kept_wellFormed.applyAt h (fun _ => trivial) ht key

namespace Edit

theorem wellFormed_applyPath {action : Action} (h : action.WellFormed) : ∀ (path : List String)
    {target : Value}, target.WellFormed → (applyPath action path target).WellFormed := by
  intro path
  induction path with
  | nil =>
    intro target _
    cases action with
    | set value => exact h
    | delete => exact Value.wellFormed_undefined
  | cons key path ih =>
    intro target ht
    cases path with
    | nil => exact h.applyAt ht key
    | cons next path =>
      rw [applyPath]
      · split
        · next child hc => exact ht.setField (ih (ht.of_occurs (Value.occurs_of_get? hc))) key
        · exact ht
      · simp

theorem wellFormed_applyAll : ∀ {edits : List Edit} {target : Value}, target.WellFormed →
    (∀ edit ∈ edits, edit.action.WellFormed) → (applyAll target edits).WellFormed := by
  intro edits
  induction edits with
  | nil => intro target ht _; exact ht
  | cons edit edits ih =>
    intro target ht he
    rw [List.forall_mem_cons] at he
    exact ih (wellFormed_applyPath he.1 edit.path ht) he.2

end Edit

/-! ### Evaluations -/

/-- The values that a projection makes are well-formed. -/
def Projection.WellFormed : Projection → Prop
  | .value v => v.WellFormed
  | .deferred writes => ∀ record key previous, record.WellFormed → previous.WellFormed →
      ∀ write ∈ writes record key previous, write.action.WellFormed
  | _ => True

/-- The values and writes of an outcome are well-formed. -/
structure Outcome.WellFormed (outcome : Outcome) : Prop where
  value : outcome.value.WellFormed
  assignments : ∀ write ∈ outcome.assignments, write.action.WellFormed
  edits : ∀ edit ∈ outcome.edits, edit.action.WellFormed

/-- Every transform makes well-formed values of well-formed ones. -/
def Registry.WellFormed (registry : Registry) : Prop :=
  ∀ name transform, registry.transform? name = some transform →
    ∀ (subject options : Value) (around : Surroundings options.weight), subject.WellFormed →
      options.WellFormed → (∀ holder ∈ around.holder, holder.WellFormed) →
        (transform.apply subject options around).WellFormed

namespace Outcome

theorem Holds.wellFormed {outcome : Outcome} (h : outcome.Holds Value.WellFormed) :
    outcome.WellFormed := ⟨h.value, h.assignments, h.edits⟩

theorem WellFormed.holds {outcome : Outcome} (h : outcome.WellFormed) :
    outcome.Holds Value.WellFormed := ⟨h.value, h.assignments, h.edits⟩

theorem wellFormed_unchanged {subject : Value} (h : subject.WellFormed) :
    (unchanged subject).WellFormed := (holds_unchanged h).wellFormed

theorem WellFormed.absorb {inner : Outcome} (h : inner.WellFormed) {subject : Value}
    (hs : subject.WellFormed) (key : String) (child : Value) :
    (inner.absorb subject key child).WellFormed :=
  (h.holds.absorb Value.kept_wellFormed hs (fun _ => Or.inr trivial)
    fun _ _ _ => trivial).wellFormed

end Outcome

theorem Projection.WellFormed.effect {projection : Projection} (h : projection.WellFormed)
    {subject options : Value} {scope : Option Scope} {outcome : Outcome}
    (hs : subject.WellFormed) (hscope : ∀ place ∈ scope, place.holder.WellFormed)
    (he : projection.effect subject options scope = some outcome) : outcome.WellFormed :=
  have hholds : projection.Holds Value.WellFormed := by cases projection <;> exact h
  (hholds.effect Value.kept_wellFormed hs hscope he fun _ _ _ => trivial).wellFormed

namespace Registry

variable {registry : Registry}

theorem WellFormed.makes (hr : registry.WellFormed) : registry.Makes Value.WellFormed := by
  intro name transform ht subject options around hs ho hholder
  have h : Projection.WellFormed _ := hr name transform ht subject options around hs ho hholder
  cases hp : transform.apply subject options around <;> rw [hp] at h <;> exact h

/-- **An evaluation of well-formed values makes well-formed values, writes and edits.** -/
theorem wellFormed_run (hr : registry.WellFormed) {entries : Entries} {subject : Value}
    {scope : Option Scope} {outcome : Outcome} (he : Entries.WellFormed entries)
    (hs : subject.WellFormed) (hscope : ∀ place ∈ scope, place.holder.WellFormed)
    (h : registry.run subject scope entries = some outcome) : outcome.WellFormed :=
  (Value.kept_wellFormed.run hr.makes (Value.wellFormed_record.mp he).2 hs hscope h
    fun _ _ _ => trivial).wellFormed

end Registry

end RecordQuery

import RecordQuery.Proofs.Pattern.WellFormed
import RecordQuery.Proofs.Value.Similar

/-!
# Replay of edits

An evaluation works on copies of nested records and writes a copy back when it has changed, while
its edits are replayed on the whole value, one path after the other.  Both lead to the same value.

* `Edit.applyAll_map_under`: edits below a key act on the field alone.
* `Registry.path_ne_nil_of_run`: below a field no edit replaces the root.
* `Registry.alike_applyAll_run`: the invariant of a run.
* `Registry.alike_applyAll_evaluate`: the edits of an evaluation make its value.
-/

namespace RecordQuery

open Value (Alike)

/-! ### Replay of many edits -/

namespace Edit

theorem applyAll_append (target : Value) (first second : List Edit) :
    applyAll target (first ++ second) = applyAll (applyAll target first) second :=
  List.foldl_append

theorem apply_under {edit : Edit} (hpath : edit.path ≠ []) {key : String} {target child : Value}
    (h : target.get? key = some child) :
    apply target (edit.under key) = target.setField key (apply child edit) := by
  rw [apply, under, applyPath, h]
  · rfl
  · exact hpath

theorem apply_under_of_get?_eq_none {edit : Edit} (hpath : edit.path ≠ []) {key : String}
    {target : Value} (h : target.get? key = none) : apply target (edit.under key) = target := by
  rw [apply, under, applyPath, h]
  exact hpath

/-- Edits below a key act on the field under it, one after the other. -/
theorem applyAll_map_under {key : String} : ∀ {edits : List Edit} {target child : Value},
    (∀ edit ∈ edits, edit.path ≠ []) → target.get? key = some child →
      applyAll target (edits.map (under key)) = target.setField key (applyAll child edits) := by
  intro edits
  induction edits with
  | nil => intro target child _ h; exact (Value.setField_of_get? h).symm
  | cons edit edits ih =>
    intro target child hpath h
    rw [List.forall_mem_cons] at hpath
    have hstep : applyAll target ((edit :: edits).map (under key)) =
        applyAll (target.setField key (apply child edit)) (edits.map (under key)) := by
      rw [← apply_under hpath.1 h]; rfl
    rw [hstep, ih hpath.2 (Value.get?_setField_self h _), Value.setField_setField]
    rfl

theorem applyAll_map_under_of_get?_eq_none {key : String} : ∀ {edits : List Edit} {target : Value},
    (∀ edit ∈ edits, edit.path ≠ []) → target.get? key = none →
      applyAll target (edits.map (under key)) = target := by
  intro edits
  induction edits with
  | nil => intro target _ _; rfl
  | cons edit edits ih =>
    intro target hpath h
    rw [List.forall_mem_cons] at hpath
    have hstep : applyAll target ((edit :: edits).map (under key)) =
        applyAll target (edits.map (under key)) := by
      rw [List.map_cons, applyAll, List.foldl_cons, apply_under_of_get?_eq_none hpath.1 h]
      rfl
    rw [hstep, ih hpath.2 h]

theorem applyAll_map_ofAssignment (target : Value) (writes : List Assignment) :
    applyAll target (writes.map ofAssignment) = assignAll target writes := by
  rw [applyAll, List.foldl_map]
  rfl

end Edit

/-! ### Similar targets -/

theorem Action.alike_applyAt {v w : Value} (h : Alike v w) (hv : v.WellFormed) (hw : w.WellFormed)
    (action : Action) (key : String) : Alike (action.applyAt key v) (action.applyAt key w) := by
  cases action with
  | set value => exact h.setField (Alike.refl value) key
  | delete => exact h.deleteField hv hw key

theorem alike_assignAll : ∀ {writes : List Assignment} {v w : Value}, Alike v w → v.WellFormed →
    w.WellFormed → (∀ write ∈ writes, write.action.WellFormed) →
      Alike (assignAll v writes) (assignAll w writes) := by
  intro writes
  induction writes with
  | nil => intro v w h _ _ _; exact h
  | cons write writes ih =>
    intro v w h hv hw hall
    rw [List.forall_mem_cons] at hall
    exact ih (Action.alike_applyAt h hv hw write.action write.key) (hall.1.applyAt hv write.key)
      (hall.1.applyAt hw write.key) hall.2

/-! ### Below a field -/

theorem Outcome.path_ne_nil_of_absorb (inner : Outcome) (subject : Value) (key : String)
    (child : Value) : ∀ edit ∈ (inner.absorb subject key child).edits, edit.path ≠ [] := by
  intro edit he
  rcases List.mem_append.mp he with he | he
  · obtain ⟨below, -, rfl⟩ := List.mem_map.mp he
    exact List.cons_ne_nil _ _
  · obtain ⟨write, -, rfl⟩ := List.mem_map.mp he
    exact List.cons_ne_nil _ _

namespace Registry

variable {registry : Registry}

/-- Below a field no edit replaces the root. -/
theorem path_ne_nil_of_run {place : Scope} : ∀ {entries : Entries} {subject : Value}
    {outcome : Outcome}, registry.run subject (some place) entries = some outcome →
      ∀ edit ∈ outcome.edits, edit.path ≠ [] := by
  intro entries
  induction entries with
  | nil =>
    intro subject outcome h
    rw [run_nil, Option.some.injEq] at h
    subst h
    simp
  | cons entry rest ih =>
    intro subject outcome h edit he
    obtain ⟨first, second, hfirst, hsecond, rfl⟩ := registry.run_cons_eq_some h
    rcases List.mem_append.mp he with he | he
    · rcases step_cases hfirst with ⟨_, -, -, rfl⟩ | ⟨_, -, -, heff⟩ | ⟨_, inner, -, -, -, -, rfl⟩ |
        ⟨-, -, -, -, rfl⟩
      · cases he
      · rw [(Projection.edits_of_inField heff).2] at he
        cases he
      · exact Outcome.path_ne_nil_of_absorb inner _ _ _ edit he
      · cases he
    · exact ih hsecond edit he

end Registry

/-! ### The invariant -/

/-- The edits that a nested pattern hands on lead from what is like the old record to what is like
the new one. -/
theorem Outcome.WellFormed.alike_applyAll_absorb {inner : Outcome} (hinner : inner.WellFormed)
    {subject target : Value} {key : String} (hs : subject.WellFormed) (ht : target.WellFormed)
    (hpath : ∀ edit ∈ inner.edits, edit.path ≠ [])
    (hmissing : subject.get? key = none → inner.value = .undefined)
    (hfield : ∀ child ∈ target.get? key, Alike child (subject.field key) →
      Alike (Edit.applyAll child inner.edits) inner.value)
    (h : Alike target subject) :
    Alike (Edit.applyAll target (inner.absorb subject key (subject.field key)).edits)
      (inner.absorb subject key (subject.field key)).value := by
  have hwf := hinner.absorb hs key (subject.field key)
  rw [Outcome.absorb] at hwf ⊢
  dsimp only at hwf ⊢
  rw [Edit.applyAll_append, Edit.applyAll_map_ofAssignment]
  have hnested : (Edit.applyAll target (inner.edits.map (.under key))).WellFormed :=
    Edit.wellFormed_applyAll ht fun edit he => hwf.edits edit (List.mem_append_left _ he)
  refine alike_assignAll ?_ hnested ?_ hinner.assignments
  · have hget := h.get? key
    cases hc : subject.get? key with
    | none =>
      -- nothing to write back, and nowhere to replay
      rw [hc] at hget
      have hsame : (Value.undefined == Value.undefined) = true := rfl
      rw [hmissing hc, Value.field_of_get?_eq_none hc, if_pos hsame,
        Edit.applyAll_map_under_of_get?_eq_none hpath ((Value.rel_eq_none_iff hget).mpr rfl)]
      exact h
    | some child =>
      rw [hc] at hget
      rw [Value.field_of_get? hc] at hfield ⊢
      cases htc : target.get? key with
      | none => rw [htc] at hget; cases hget
      | some copy =>
        rw [htc] at hget
        cases hget with
        | some hcopy =>
          have hreplay := hfield copy htc hcopy
          rw [Edit.applyAll_map_under hpath htc]
          split
          · next hsame =>
            -- the copy is not written back, since it is like the field that is there
            have hchild := Value.alike_of_beq hinner.value
              (hs.of_occurs (Value.occurs_of_get? hc)) hsame
            have := h.setField (hreplay.trans hchild) key
            rwa [Value.setField_of_get? hc] at this
          · exact h.setField hreplay key
  · split
    · exact hs
    · exact hs.setField hinner.value key

theorem Projection.WellFormed.alike_applyAll_effect {projection : Projection}
    (hp : projection.WellFormed) {subject target options : Value} {scope : Option Scope}
    {outcome : Outcome}
    (hs : subject.WellFormed) (ht : target.WellFormed) (h : Alike target subject)
    (he : projection.effect subject options scope = some outcome) :
    Alike (Edit.applyAll target outcome.edits) outcome.value := by
  cases scope with
  | some place =>
    obtain ⟨hv, hn⟩ := Projection.edits_of_inField he
    rw [hv, hn]
    exact h
  | none =>
    simp only [Projection.effect] at he
    unfold Projection.atRoot at he
    split at he <;> try cases he
    · exact Alike.refl _
    · exact h
    · split at he <;> cases he
      · next key _ _ =>
        rw [Edit.applyAll_map_ofAssignment]
        exact alike_assignAll h ht hs (hp _ key _ hs (hs.field key))
      · exact h

namespace Registry

variable {registry : Registry}

/-- **The invariant of a run.**  Replayed on a value like the subject, its edits make a value like
the one it returns. -/
theorem alike_applyAll_run (hr : registry.WellFormed) : ∀ {entries : Entries}
    {subject target : Value} {scope : Option Scope} {outcome : Outcome},
      Entries.WellFormed entries → subject.WellFormed → target.WellFormed →
        (∀ place ∈ scope, place.holder.WellFormed) → Alike target subject →
          registry.run subject scope entries = some outcome →
            Alike (Edit.applyAll target outcome.edits) outcome.value := by
  intro entries
  induction entries using Pattern.induct with
  | nil =>
    intro subject target scope outcome _ _ _ _ h hrun
    rw [run_nil, Option.some.injEq] at hrun
    exact hrun ▸ h
  | cons key argument rest ihNested ihRest =>
    intro subject target scope outcome he hs ht hscope h hrun
    obtain ⟨-, ha, hrest⟩ := Entries.wellFormed_cons.mp he
    obtain ⟨first, second, hfirst, hsecond, rfl⟩ := registry.run_cons_eq_some hrun
    have hf : first.WellFormed ∧ Alike (Edit.applyAll target first.edits) first.value := by
      rcases step_cases hfirst with ⟨_, -, -, rfl⟩ | ⟨transform, -, htr, heff⟩ |
        ⟨nested, inner, -, -, rfl, hinner, rfl⟩ | ⟨-, -, -, -, rfl⟩
      · exact ⟨Outcome.wellFormed_unchanged hs, h⟩
      · have hp : Projection.WellFormed _ := hr _ transform htr _ _ _ hs ha
          (holds_holder registry hscope argument)
        exact ⟨hp.effect hs hscope heff, hp.alike_applyAll_effect hs ht h heff⟩
      · have hplace : ∀ place ∈ some (Scope.mk key subject), place.holder.WellFormed := by
          intro place hplace
          cases hplace
          exact hs
        have hnested := Pattern.wellFormed_expand ha
        have hwf := wellFormed_run hr hnested (hs.field key) hplace hinner
        refine ⟨hwf.absorb hs key _, hwf.alike_applyAll_absorb hs ht (path_ne_nil_of_run hinner)
          (fun hc => ?_) (fun child hc hlike => ?_) h⟩
        · rw [Value.field_of_get?_eq_none hc] at hinner
          exact (value_eq_undefined_of_run hinner).mpr rfl
        · exact ihNested nested rfl hnested (hs.field key)
            (ht.of_occurs (Value.occurs_of_get? hc)) hplace hlike hinner
      · exact ⟨Outcome.wellFormed_unchanged hs, h⟩
    rw [Outcome.followedBy_edits, Edit.applyAll_append]
    exact ihRest hrest hf.1.value (Edit.wellFormed_applyAll ht hf.1.edits) hscope hf.2 hsecond

/-- **The edits of an evaluation make its value.**  Performed on the data from the start, they lead
to the value that the evaluation returns, up to the order of keys, the sign of zero and the choice
of NaN. -/
theorem alike_applyAll_evaluate (hr : registry.WellFormed) {data pattern : Value}
    (hd : data.WellFormed) (hp : pattern.WellFormed) {found : Evaluation}
    (h : registry.evaluate? data pattern = some found) :
    Alike (Edit.applyAll data found.edits) found.value := by
  cases hrec : pattern.record? with
  | some entries =>
    obtain rfl := Value.record?_eq_some_iff.mp hrec
    rw [evaluate?] at h
    obtain ⟨outcome, hrun, rfl⟩ := Option.map_eq_some_iff.mp h
    exact alike_applyAll_run hr (Pattern.wellFormed_expand hp) hd hd (by simp)
      (Alike.refl data) hrun
  | none =>
    rw [registry.evaluate?_of_literal hrec, Option.ite_none_right_eq_some, Option.some.injEq] at h
    exact h.2 ▸ Alike.refl data

/-- A transform two records down, under a dotted key. -/
theorem alike_applyAll_evaluate_nested :
    let registry : Registry := ⟨[], [("$put", ⟨fun _ options _ => .value options⟩)]⟩
    let data : Value := .record [("a", .record [("b", .null)])]
    let pattern : Value := .record [("a.b", .record [("$put", .string "x")])]
    ∃ found, registry.evaluate? data pattern = some found ∧
      Alike (Edit.applyAll data found.edits) found.value := by
  intro registry data pattern
  have hr : registry.WellFormed := by
    intro name transform ht subject options around _ ho _
    obtain ⟨rfl, rfl⟩ : name = "$put" ∧ transform = ⟨fun _ options _ => .value options⟩ := by
      simpa [registry] using Assoc.mem_of_get? ht
    exact ho
  have hd : data.WellFormed := by simp [data]
  have hp : pattern.WellFormed := by simp [pattern]
  have hdotted : Pattern.expand [("a.b", .record [("$put", .string "x")])] =
      [("a", .record [("b", .record [("$put", .string "x")])])] := by rfl
  have hnested : Pattern.expand [("b", .record [("$put", .string "x")])] =
      [("b", .record [("$put", .string "x")])] := by rfl
  have hput : Pattern.expand [("$put", .string "x")] = [("$put", .string "x")] := by rfl
  have hfound : (registry.evaluate? data pattern).isSome = true := by
    rw [evaluate?, hdotted]
    simp [run_cons, step, predicate?, transform?, registry, data, Assoc.get?, hnested, hput,
      Projection.effect, Projection.inField]
  obtain ⟨found, hf⟩ := Option.isSome_iff_exists.mp hfound
  exact ⟨found, hf, alike_applyAll_evaluate hr hd hp hf⟩

end Registry

end RecordQuery

import RecordQuery.Proofs.Pattern.Builtins
import RecordQuery.Proofs.Pattern.Replay

/-!
# Writes that last

The log of an evaluation lists all writes, those included that have no effect: a write needs a
record to go to, or an array with an item at its index or right before it.  Of the writes with a
place, the value that the evaluation returns shows all that no later write goes over.

* `Value.Overlap`: one of two paths into a value leads through the end of the other; segments into
  an array are compared as indices.
* `Value.HasPlace`, `Edit.Placed`: where a write has an effect.
* `Edit.ShownBy`: a value holds what was written, and nothing at what was deleted.
* `Edit.along_applyPath`: a write leaves alone what its path does not overlap.
* `Edit.along_applyAll`: so do many writes.
* `Registry.shownBy_evaluate`: the writes that an evaluation returns.
-/

namespace RecordQuery

open Value (Alike)

namespace Value

/-- Two segments lead to the same field of a value; into an array they do so by their indices. -/
def SameField (v : Value) (key other : String) : Prop :=
  key = other ∨ v.array?.isSome = true ∧ (Path.index? key).isSome = true ∧
    Path.index? key = Path.index? other

/-- One of two paths into a value leads through the end of the other one. -/
def Overlap : (path other : List String) → Value → Prop
  | [], _, _ => True
  | _ :: _, [], _ => True
  | key :: path, next :: other, v => v.SameField key next ∧ Overlap path other (v.field key)

/-- A write to a field has an effect: the value is a record, or an array whose length is at least
the index. -/
def Takes (key : String) : Value → Prop
  | .record _ => True
  | .array items => ∃ i, Path.index? key = some i ∧ i ≤ items.length
  | _ => False

/-- A write at the end of a path has an effect. -/
def HasPlace : (path : List String) → Value → Prop
  | [], _ => True
  | [key], v => v.Takes key
  | key :: next :: path, v => ∃ child, v.get? key = some child ∧ HasPlace (next :: path) child

/-- Nothing is at the end of a path, but for the hole that an item of an array leaves. -/
def Vacant : (path : List String) → Value → Prop
  | [], v => v = .undefined
  | [key], v => v.get? key = none ∨ v.array?.isSome = true ∧ v.get? key = some .undefined
  | key :: next :: path, v => ∀ child, v.get? key = some child → Vacant (next :: path) child

/-- Two values have containers of the same kinds along a path, and what is at its end is related. -/
def Along (r : Value → Value → Prop) : (path : List String) → Value → Value → Prop
  | [], v, w => r v w
  | key :: path, v, w =>
    v.array?.isSome = w.array?.isSome ∧ Option.Rel (Along r path) (v.get? key) (w.get? key)

end Value

/-- An edit has an effect on a value; a deletion need not. -/
def Edit.Placed (edit : Edit) (target : Value) : Prop :=
  match edit.action with
  | .set _ => target.HasPlace edit.path
  | .delete => True

/-- A value shows an edit: it holds what was written, and nothing at the end of the path of a
deletion. -/
def Edit.ShownBy (edit : Edit) (v : Value) : Prop :=
  match edit.action with
  | .set value => ∃ held, v.follow? edit.path = some held ∧ Alike value held
  | .delete => v.Vacant edit.path

namespace Value

/-! ### Fields -/

theorem SameField.get? {v : Value} {key other : String} (h : v.SameField key other) :
    v.get? key = v.get? other := by
  rcases h with rfl | ⟨ha, -, hi⟩
  · rfl
  · cases v with
    | array items => rw [Value.get?, Value.get?, hi]
    | _ => cases ha

theorem setField_array {key : String} {i : Nat} (h : Path.index? key = some i) (items : List Value)
    (value : Value) :
    (array items).setField key value =
      array (if i = items.length then items ++ [value] else items.set i value) := by
  simp only [setField, h]
  split <;> rfl

theorem setField_array_of_index?_eq_none {key : String} (h : Path.index? key = none)
    (items : List Value) (value : Value) : (array items).setField key value = array items := by
  simp only [setField, h]

theorem deleteField_array {key : String} {i : Nat} (h : Path.index? key = some i)
    (items : List Value) : (array items).deleteField key = array (items.set i .undefined) := by
  simp only [deleteField, h]

theorem deleteField_array_of_index?_eq_none {key : String} (h : Path.index? key = none)
    (items : List Value) : (array items).deleteField key = array items := by
  simp only [deleteField, h]

theorem get?_array {key : String} {i : Nat} (h : Path.index? key = some i) (items : List Value) :
    (array items).get? key = items[i]? := by rw [Value.get?, h, Option.bind_some]

theorem get?_array_of_index?_eq_none {key : String} (h : Path.index? key = none)
    (items : List Value) : (array items).get? key = none := by
  rw [Value.get?, h, Option.bind_none]

theorem array?_setField (v : Value) (key : String) (value : Value) :
    (v.setField key value).array?.isSome = v.array?.isSome := by
  cases v with
  | array items =>
    cases hk : Path.index? key with
    | none => rw [setField_array_of_index?_eq_none hk]
    | some i => rw [setField_array hk]; rfl
  | _ => rfl

theorem array?_deleteField (v : Value) (key : String) :
    (v.deleteField key).array?.isSome = v.array?.isSome := by
  cases v with
  | array items =>
    cases hk : Path.index? key with
    | none => rw [deleteField_array_of_index?_eq_none hk]
    | some i => rw [deleteField_array hk]; rfl
  | _ => rfl

theorem index?_ne_of_not_sameField {items : List Value} {key other : String} {i j : Nat}
    (h : ¬(array items).SameField key other) (hk : Path.index? key = some i)
    (ho : Path.index? other = some j) : i ≠ j := by
  rintro rfl
  exact h (Or.inr ⟨rfl, by rw [hk]; rfl, hk.trans ho.symm⟩)

theorem get?_setField_of_not_sameField {v : Value} {key other : String}
    (h : ¬v.SameField key other) (value : Value) :
    (v.setField other value).get? key = v.get? key := by
  cases v with
  | record entries => exact Assoc.get?_insert_of_ne (fun he => h (Or.inl he.symm)) ..
  | array items =>
    cases ho : Path.index? other with
    | none => rw [setField_array_of_index?_eq_none ho]
    | some j =>
      rw [setField_array ho]
      cases hk : Path.index? key with
      | none => rw [get?_array_of_index?_eq_none hk, get?_array_of_index?_eq_none hk]
      | some i =>
        have hij := index?_ne_of_not_sameField h hk ho
        rw [get?_array hk, get?_array hk]
        split
        · -- the write appends, and the field is no item before and after
          next hj =>
          rcases Nat.lt_or_gt_of_ne hij with hlt | hgt
          · rw [List.getElem?_append_left (by omega)]
          · rw [List.getElem?_eq_none (by simp; omega), List.getElem?_eq_none (by omega)]
        · exact List.getElem?_set_ne hij.symm
  | _ => rfl

theorem get?_deleteField_of_not_sameField {v : Value} {key other : String}
    (h : ¬v.SameField key other) : (v.deleteField other).get? key = v.get? key := by
  cases v with
  | record entries => exact Assoc.get?_erase_of_ne (fun he => h (Or.inl he.symm)) ..
  | array items =>
    cases ho : Path.index? other with
    | none => rw [deleteField_array_of_index?_eq_none ho]
    | some j =>
      rw [deleteField_array ho]
      cases hk : Path.index? key with
      | none => rw [get?_array_of_index?_eq_none hk, get?_array_of_index?_eq_none hk]
      | some i =>
        rw [get?_array hk, get?_array hk]
        exact List.getElem?_set_ne (index?_ne_of_not_sameField h hk ho).symm
  | _ => rfl

theorem get?_setField_of_takes {v : Value} {key : String} (h : v.Takes key) (value : Value) :
    (v.setField key value).get? key = some value := by
  cases v with
  | record entries => exact Assoc.get?_insert_self ..
  | array items =>
    obtain ⟨i, hk, hi⟩ := h
    rw [setField_array hk, get?_array hk]
    split
    · next he => rw [he, List.getElem?_append_right (Nat.le_refl _), Nat.sub_self]; rfl
    · next hne => exact List.getElem?_set_self (by omega)
  | _ => exact h.elim

theorem get?_setField_of_not_takes {v : Value} {key : String} (h : ¬v.Takes key) (value : Value) :
    (v.setField key value).get? key = none := by
  cases v with
  | record entries => exact absurd trivial h
  | array items =>
    cases hk : Path.index? key with
    | none => rw [setField_array_of_index?_eq_none hk, get?_array_of_index?_eq_none hk]
    | some i =>
      have hlt : items.length < i := Nat.lt_of_not_le fun hle => h ⟨i, hk, hle⟩
      rw [setField_array hk, get?_array hk, if_neg (Nat.ne_of_gt hlt)]
      exact List.getElem?_eq_none (by rw [List.length_set]; omega)
  | _ => rfl

theorem vacant_deleteField {v : Value} (h : v.WellFormed) (key : String) :
    Vacant [key] (v.deleteField key) := by
  rw [Vacant]
  cases v with
  | record entries => exact Or.inl (Assoc.get?_erase_self (wellFormed_record.mp h).1)
  | array items =>
    cases hk : Path.index? key with
    | none =>
      rw [deleteField_array_of_index?_eq_none hk]
      exact Or.inl (get?_array_of_index?_eq_none hk _)
    | some i =>
      rw [deleteField_array hk, get?_array hk]
      rcases Nat.lt_or_ge i items.length with hi | hi
      · exact Or.inr ⟨rfl, List.getElem?_set_self hi⟩
      · exact Or.inl (List.getElem?_eq_none (by rw [List.length_set]; omega))
  | _ => exact Or.inl rfl

/-! ### Along a path -/

variable {r : Value → Value → Prop}

theorem Along.refl (hr : ∀ v, r v v) : ∀ (path : List String) (v : Value), Along r path v v := by
  intro path
  induction path with
  | nil => exact hr
  | cons key path ih => exact fun v => ⟨rfl, rel_refl fun child _ => ih child⟩

theorem Along.trans (hr : ∀ {u v w}, r u v → r v w → r u w) : ∀ {path : List String}
    {u v w : Value}, Along r path u v → Along r path v w → Along r path u w := by
  intro path
  induction path with
  | nil => exact hr
  | cons key path ih =>
    intro u v w h g
    exact ⟨h.1.trans g.1, rel_trans h.2 g.2 fun _ _ _ _ => ih⟩

theorem Along.follow? : ∀ {path : List String} {v w : Value}, Along r path v w →
    Option.Rel r (Value.follow? path v) (Value.follow? path w) := by
  intro path
  induction path with
  | nil => intro v w h; exact .some h
  | cons key path ih =>
    intro v w h
    obtain ⟨-, hfield⟩ := h
    unfold Value.follow?
    cases hv : v.get? key <;> cases hw : w.get? key <;> rw [hv, hw] at hfield <;> cases hfield
    · exact .none
    · next h => exact ih h

theorem Along.vacant (hr : ∀ {w}, r .undefined w → w = .undefined) : ∀ {path : List String}
    {v w : Value}, Along r path v w → Vacant path v → Vacant path w := by
  intro path
  induction path with
  | nil =>
    intro v w h hv
    rw [Vacant] at hv
    exact hr (hv ▸ h)
  | cons key path ih =>
    intro v w h hv
    obtain ⟨harray, hfield⟩ := h
    cases path with
    | nil =>
      rw [Vacant, ← harray]
      rcases hv with hv | ⟨ha, hv⟩ <;> rw [hv] at hfield <;> cases hw : w.get? key <;>
        rw [hw] at hfield <;> cases hfield
      · exact Or.inl rfl
      · next h => exact Or.inr ⟨ha, congrArg some (hr h)⟩
    | cons next path =>
      intro other hw
      rw [hw] at hfield
      cases hc : v.get? key with
      | none => rw [hc] at hfield; cases hfield
      | some child =>
        rw [hc] at hfield
        cases hfield with
        | some h => exact ih h (hv child hc)

theorem Similar.array? {r : Float → Float → Prop} {v w : Value} (h : Similar r v w) :
    v.array?.isSome = w.array?.isSome := by
  cases h <;> rfl

theorem Alike.along : ∀ (path : List String) {v w : Value}, Alike v w → Along Alike path v w := by
  intro path
  induction path with
  | nil => exact id
  | cons key path ih =>
    intro v w h
    exact ⟨h.array?, rel_imp (h.get? key) fun _ _ _ => ih⟩

theorem Along.imp {r' : Value → Value → Prop} (hr : ∀ {v w}, r v w → r' v w) :
    ∀ {path : List String} {v w : Value}, Along r path v w → Along r' path v w := by
  intro path
  induction path with
  | nil => exact hr
  | cons key path ih => intro v w h; exact ⟨h.1, rel_imp h.2 fun _ _ _ => ih⟩

theorem overlap_nil (path : List String) (v : Value) : Overlap path [] v := by
  cases path <;> trivial

theorem sameField_congr {v w : Value} (h : v.array?.isSome = w.array?.isSome)
    (key other : String) : v.SameField key other ↔ w.SameField key other := by
  rw [SameField, SameField, h]

/-- Values with containers of the same kinds along a path have the same overlaps with it. -/
theorem Along.overlap_iff : ∀ {path other : List String} {v w : Value}, Along r path v w →
    (Overlap path other v ↔ Overlap path other w) := by
  intro path
  induction path with
  | nil => intro other v w _; rw [Overlap, Overlap]
  | cons key path ih =>
    intro other v w h
    obtain ⟨harray, hfield⟩ := h
    cases other with
    | nil => rw [Overlap, Overlap]
    | cons next other =>
      rw [Overlap, Overlap, sameField_congr harray]
      refine and_congr_right fun _ => ?_
      cases hv : v.get? key <;> cases hw : w.get? key <;> rw [hv, hw] at hfield <;> cases hfield
      · rw [field_of_get?_eq_none hv, field_of_get?_eq_none hw]
      · next h =>
        rw [field_of_get? hv, field_of_get? hw]
        exact ih h

end Value

/-! ### One write -/

theorem Action.array?_applyAt (action : Action) (key : String) (v : Value) :
    (action.applyAt key v).array?.isSome = v.array?.isSome := by
  cases action with
  | set value => exact v.array?_setField key value
  | delete => exact v.array?_deleteField key

theorem Action.get?_applyAt_of_not_sameField {v : Value} {key other : String}
    (h : ¬v.SameField key other) (action : Action) :
    (action.applyAt other v).get? key = v.get? key := by
  cases action with
  | set value => exact Value.get?_setField_of_not_sameField h value
  | delete => exact Value.get?_deleteField_of_not_sameField h

namespace Edit

open Value (Along Overlap HasPlace Vacant)

theorem applyPath_singleton (action : Action) (key : String) (v : Value) :
    applyPath action [key] v = action.applyAt key v := rfl

theorem applyPath_cons_cons (action : Action) (key next : String) (path : List String) (v : Value) :
    applyPath action (key :: next :: path) v =
      match v.get? key with
      | some child => v.setField key (applyPath action (next :: path) child)
      | none => v := rfl

/-- **A write leaves alone what its path does not overlap.** -/
theorem along_applyPath (action : Action) : ∀ {path other : List String} {v : Value},
    ¬Overlap path other v → Along Eq path v (applyPath action other v) := by
  intro path
  induction path with
  | nil => intro other v h; exact absurd trivial h
  | cons key path ih =>
    intro other v h
    cases other with
    | nil => exact absurd trivial h
    | cons next other =>
      have hsame : ∀ {x : Option Value}, Option.Rel (Along Eq path) x x :=
        Value.rel_refl fun child _ => .refl (fun _ => rfl) path child
      by_cases hs : v.SameField key next
      · -- both paths go on below one field, and they part there
        have hbelow : ¬Overlap path other (v.field key) := fun ho => h ⟨hs, ho⟩
        cases other with
        | nil => exact absurd (Value.overlap_nil ..) hbelow
        | cons after other =>
          rw [applyPath_cons_cons]
          cases hg : v.get? next with
          | none => exact .refl (fun _ => rfl) _ v
          | some child =>
            have hkey : v.get? key = some child := hs.get?.trans hg
            rw [Value.field_of_get? hkey] at hbelow
            have harray := v.array?_setField next (applyPath action (after :: other) child)
            refine ⟨harray.symm, ?_⟩
            rw [hkey, ((Value.sameField_congr harray key next).mpr hs).get?,
              Value.get?_setField_self hg]
            exact .some (ih hbelow)
      · -- they part at this value
        cases other with
        | nil =>
          refine ⟨(action.array?_applyAt next v).symm, ?_⟩
          rw [applyPath_singleton, action.get?_applyAt_of_not_sameField hs]
          exact hsame
        | cons after other =>
          rw [applyPath_cons_cons]
          cases v.get? next with
          | none => exact .refl (fun _ => rfl) _ v
          | some child =>
            refine ⟨(v.array?_setField next _).symm, ?_⟩
            rw [Value.get?_setField_of_not_sameField hs]
            exact hsame

theorem follow?_applyPath_set (value : Value) : ∀ {path : List String} {v : Value},
    v.HasPlace path → (applyPath (.set value) path v).follow? path = some value := by
  intro path
  induction path with
  | nil => intro v _; rfl
  | cons key path ih =>
    intro v h
    cases path with
    | nil =>
      rw [applyPath_singleton, Value.follow?, Action.applyAt, Value.get?_setField_of_takes h]
      rfl
    | cons next path =>
      obtain ⟨child, hc, h⟩ := h
      rw [applyPath_cons_cons, hc, Value.follow?]
      dsimp only
      rw [Value.get?_setField_self hc, Option.bind_some]
      exact ih h

theorem follow?_applyPath_set_of_not_hasPlace (value : Value) : ∀ {path : List String}
    {v : Value}, ¬v.HasPlace path → (applyPath (.set value) path v).follow? path = none := by
  intro path
  induction path with
  | nil => intro v h; exact absurd trivial h
  | cons key path ih =>
    intro v h
    cases path with
    | nil =>
      rw [applyPath_singleton, Value.follow?, Action.applyAt, Value.get?_setField_of_not_takes h]
      rfl
    | cons next path =>
      rw [applyPath_cons_cons, Value.follow?]
      cases hc : v.get? key with
      | none => rw [hc]; rfl
      | some child =>
        dsimp only
        rw [Value.get?_setField_self hc, Option.bind_some]
        exact ih fun hplace => h ⟨child, hc, hplace⟩

theorem vacant_applyPath_delete : ∀ {path : List String} {v : Value}, v.WellFormed →
    Vacant path (applyPath .delete path v) := by
  intro path
  induction path with
  | nil => intro v _; rfl
  | cons key path ih =>
    intro v h
    cases path with
    | nil => exact Value.vacant_deleteField h key
    | cons next path =>
      rw [applyPath_cons_cons]
      cases hc : v.get? key with
      | none =>
        intro child hchild
        rw [hc] at hchild
        cases hchild
      | some child =>
        intro after hafter
        rw [Value.get?_setField_self hc, Option.some.injEq] at hafter
        subst hafter
        exact ih (h.of_occurs (Value.occurs_of_get? hc))

/-! ### The writes of a log -/

/-- **Many writes leave alone what none of their paths overlaps.** -/
theorem along_applyAll : ∀ {edits : List Edit} {path : List String} {v : Value},
    (∀ edit ∈ edits, ¬Overlap path edit.path v) → Along Eq path v (applyAll v edits) := by
  intro edits
  induction edits with
  | nil => intro path v _; exact .refl (fun _ => rfl) path v
  | cons edit edits ih =>
    intro path v h
    rw [List.forall_mem_cons] at h
    have hfirst := along_applyPath edit.action h.1
    refine hfirst.trans (fun h g => h.trans g) (ih fun later hl => ?_)
    rw [← hfirst.overlap_iff]
    exact h.2 later hl

/-- A write that no later one goes over is to be seen in what is like the value made, and only if it
has a place. -/
theorem shownBy_of_alike_applyAll {data made : Value} (hd : data.WellFormed)
    {before after : List Edit} {edit : Edit} (hwf : ∀ earlier ∈ before, earlier.action.WellFormed)
    (hlast : ∀ later ∈ after,
      ¬Overlap edit.path later.path (applyAll data (before ++ [edit])))
    (hmade : Alike (applyAll data (before ++ edit :: after)) made) :
    (edit.Placed (applyAll data before) → edit.ShownBy made) ∧
      (¬edit.Placed (applyAll data before) → made.follow? edit.path = none) := by
  have hsplit : applyAll data (before ++ edit :: after) =
      applyAll (applyAll data (before ++ [edit])) after := by
    rw [← applyAll_append, List.append_assoc]
    rfl
  rw [hsplit] at hmade
  have halong : Along Alike edit.path (applyAll data (before ++ [edit])) made :=
    ((along_applyAll hlast).imp fun h => h ▸ Alike.refl _).trans (fun h g => h.trans g)
      (hmade.along edit.path)
  have hslot := halong.follow?
  have hstep : applyAll data (before ++ [edit]) =
      applyPath edit.action edit.path (applyAll data before) := by
    rw [applyAll_append]
    rfl
  rw [hstep] at halong hslot
  unfold Placed ShownBy
  cases haction : edit.action with
  | set value =>
    rw [haction] at hslot
    dsimp only
    constructor
    · intro hplace
      rw [follow?_applyPath_set value hplace] at hslot
      cases hheld : made.follow? edit.path with
      | none => rw [hheld] at hslot; cases hslot
      | some held =>
        rw [hheld] at hslot
        cases hslot with
        | some h => exact ⟨held, rfl, h⟩
    · intro hplace
      rw [follow?_applyPath_set_of_not_hasPlace value hplace] at hslot
      exact (Value.rel_eq_none_iff hslot).mp rfl
  | delete =>
    rw [haction] at halong
    refine ⟨fun _ => halong.vacant (fun h => by cases h; rfl)
      (vacant_applyPath_delete (wellFormed_applyAll hd hwf)), fun h => absurd trivial h⟩

end Edit

namespace Registry

variable {registry : Registry}

/-- **An evaluation returns its writes.**  Of a write that no later one goes over, the value
returned shows the effect, provided that the write had a place when it was made; if not, there is
nothing at the end of its path. -/
theorem shownBy_evaluate (hr : registry.WellFormed) {data pattern : Value} (hd : data.WellFormed)
    (hp : pattern.WellFormed) {found : Evaluation}
    (h : registry.evaluate? data pattern = some found) {before after : List Edit} {edit : Edit}
    (hlog : found.edits = before ++ edit :: after)
    (hlast : ∀ later ∈ after,
      ¬Value.Overlap edit.path later.path (Edit.applyAll data (before ++ [edit]))) :
    (edit.Placed (Edit.applyAll data before) → edit.ShownBy found.value) ∧
      (¬edit.Placed (Edit.applyAll data before) → found.value.follow? edit.path = none) := by
  cases hrec : pattern.record? with
  | some entries =>
    obtain rfl := Value.record?_eq_some_iff.mp hrec
    rw [evaluate?_record] at h
    obtain ⟨outcome, hrun, rfl⟩ := Option.map_eq_some_iff.mp h
    have hpattern := Pattern.wellFormed_expand hp
    have hwf := wellFormed_run hr hpattern hd (by simp) hrun
    have hmade := alike_applyAll_run hr hpattern hd hd (by simp) (Alike.refl data) hrun
    dsimp only at hlog
    rw [hlog] at hmade
    refine Edit.shownBy_of_alike_applyAll hd (fun earlier he => hwf.edits earlier ?_) hlast hmade
    rw [hlog]
    exact List.mem_append_left _ he
  | none =>
    rw [registry.evaluate?_of_literal hrec, Option.ite_none_right_eq_some, Option.some.injEq] at h
    rw [← h.2] at hlog
    cases before <;> cases hlog

/-- The first of two writes to an array; the second one appends. -/
theorem shownBy_evaluate_appended :
    let registry : Registry := ⟨[], [("$put", ⟨fun _ options _ => .value options⟩)]⟩
    let data : Value := .record [("a", .array [.null])]
    let pattern : Value := .record [("a", .record [("0", .record [("$put", .string "x")]),
      ("1", .record [("$put", .string "y")])])]
    let edit : Edit := ⟨["a", "0"], .set (.string "x")⟩
    let later : Edit := ⟨["a", "1"], .set (.string "y")⟩
    ∃ found, registry.evaluate? data pattern = some found ∧ found.edits = [] ++ edit :: [later] ∧
      edit.Placed data ∧ edit.ShownBy found.value := by
  intro registry data pattern edit later
  have hr : registry.WellFormed := by
    intro name transform ht subject options around _ ho _
    obtain ⟨rfl, rfl⟩ : name = "$put" ∧ transform = ⟨fun _ options _ => .value options⟩ := by
      simpa [registry] using Assoc.mem_of_get? ht
    exact ho
  have hd : data.WellFormed := by simp [data]
  have hp : pattern.WellFormed := by simp [pattern]
  have hexpand : Pattern.expand [("a", .record [("0", .record [("$put", .string "x")]),
      ("1", .record [("$put", .string "y")])])] =
        [("a", .record [("0", .record [("$put", .string "x")]),
          ("1", .record [("$put", .string "y")])])] := by rfl
  have hitems : Pattern.expand [("0", .record [("$put", .string "x")]),
      ("1", .record [("$put", .string "y")])] = [("0", .record [("$put", .string "x")]),
        ("1", .record [("$put", .string "y")])] := by rfl
  have hput : ∀ s, Pattern.expand [("$put", .string s)] = [("$put", .string s)] :=
    fun s => Pattern.expand_singleton (by decide) (.string s)
  obtain ⟨found, hfound, hlog⟩ : ∃ found, registry.evaluate? data pattern = some found ∧
      found.edits = [] ++ edit :: [later] := by
    rw [evaluate?_record, hexpand]
    simp [run_cons, step, predicate?, transform?, registry, data, Assoc.get?, hitems, hput,
      Projection.effect, Projection.inField]
    rfl
  have hplaced : edit.Placed data :=
    ⟨.array [.null], rfl, 0, by decide +kernel, Nat.zero_le _⟩
  have hlast : ∀ other ∈ [later],
      ¬Value.Overlap edit.path other.path (Edit.applyAll data ([] ++ [edit])) := by
    rw [List.forall_mem_singleton]
    rintro ⟨-, (h | ⟨-, -, h⟩), -⟩
    · simp at h
    · have : ¬Path.index? "0" = Path.index? "1" := by decide +kernel
      exact this h
  exact ⟨found, hfound, hlog, hplaced,
    (shownBy_evaluate hr hd hp hfound hlog hlast).1 hplaced⟩

/-- A default below a field that is missing: the write is in the log, and nothing is there. -/
theorem not_shownBy_missing :
    let registry := builtins fun _ _ => .undefined
    let pattern : Value := .record [("a", .record [("b", .record [("$default",
      .record [("value", .string "x")])])])]
    let edit : Edit := ⟨["a", "b"], .set (.string "x")⟩
    registry.evaluate? (.record []) pattern = some ⟨.record [], [edit]⟩ ∧
      ¬edit.ShownBy (.record []) := by
  intro registry pattern edit
  have hmarked := marked_builtins fun _ _ => .undefined
  have hdefault : ∀ place, registry.step .undefined (some place) "$default"
      (.record [("value", .string "x")]) =
        some ⟨.undefined, [⟨place.property, .set (.string "x")⟩], []⟩ := fun _ => rfl
  have hbelow : registry.step .undefined (some ⟨"a", .record []⟩) "b"
      (.record [("$default", .record [("value", .string "x")])]) =
        some ⟨.undefined, [], [⟨["b"], .set (.string "x")⟩]⟩ := by
    rw [step_of_record (hmarked "b" rfl).1 (hmarked "b" rfl).2,
      Pattern.expand_singleton (by decide), run_cons]
    show ((registry.step .undefined _ "$default" _).bind _).map _ = _
    rw [hdefault, Option.bind_some, run_nil]
    rfl
  have hstep : registry.step (.record []) none "a" (.record [("b", .record [("$default",
      .record [("value", .string "x")])])]) = some ⟨.record [], [], [edit]⟩ := by
    rw [step_of_record (hmarked "a" rfl).1 (hmarked "a" rfl).2,
      Pattern.expand_singleton (by decide), run_cons]
    show ((registry.step .undefined _ "b" _).bind _).map _ = _
    rw [hbelow, Option.bind_some, run_nil]
    rfl
  constructor
  · rw [evaluate?_record, Pattern.expand_singleton (by decide), run_cons, hstep, Option.bind_some,
      run_nil]
    rfl
  · rintro ⟨held, hheld, -⟩
    cases hheld

end Registry

end RecordQuery

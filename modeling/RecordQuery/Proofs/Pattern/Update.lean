import RecordQuery.Proofs.Pattern.Lasting

/-!
# Updates at the end of a path

An edit acts on one field of the value that the segments before its last one lead to.  What was
written is found there, what was deleted is gone or has left a hole, and what other paths lead to
stays as it was; where there is no such field, nothing happens at all.

* `Value.Yields`, `Action.Fits`: the fields that an action can act on.
* `Value.follow?_append`: one path followed after another.
* `Edit.follow?_applyPath_append`: what an edit makes of a value on its path.
* `Edit.applyPath_append_of_fixed`: an edit that leaves the end of a path alone.
* `Edit.exists_applyPath_record`: the keys of a record on the path of an edit.
* `Edit.Lawful`: the laws of an update.
* `Edit.lawful_apply`: edits are lawful.
-/

namespace RecordQuery

/-- A deletion has a field to act on: the value is a record, or an array with an item at the
index. -/
def Value.Yields (key : String) : Value → Prop
  | .record _ => True
  | .array items => ∃ i, Path.index? key = some i ∧ i < items.length
  | _ => False

/-- An action has a field to act on; a write may go right behind the last item of an array, too. -/
def Action.Fits (key : String) (holder : Value) : Action → Prop
  | .set _ => holder.Takes key
  | .delete => holder.Yields key

/-! ### One field -/

theorem Action.applyAt_of_not_fits {action : Action} {key : String} {holder : Value}
    (h : ¬action.Fits key holder) : action.applyAt key holder = holder := by
  cases holder with
  | record entries => cases action <;> exact absurd trivial h
  | array items =>
    cases hk : Path.index? key with
    | none =>
      cases action with
      | set value => exact Value.setField_array_of_index?_eq_none hk items value
      | delete => exact Value.deleteField_array_of_index?_eq_none hk items
    | some i =>
      cases action with
      | set value =>
        have hlt : items.length < i := Nat.lt_of_not_le fun hle => h ⟨i, hk, hle⟩
        rw [applyAt, Value.setField_array hk, if_neg (Nat.ne_of_gt hlt),
          List.set_eq_of_length_le (Nat.le_of_lt hlt)]
      | delete =>
        have hle : items.length ≤ i := Nat.le_of_not_lt fun hlt => h ⟨i, hk, hlt⟩
        rw [applyAt, Value.deleteField_array hk, List.set_eq_of_length_le hle]
  | _ => cases action <;> rfl

/-! ### Along a path -/

theorem Value.eq_of_rel {α : Type} {a b : Option α} (h : Option.Rel Eq a b) : a = b := by
  cases h with
  | none => rfl
  | some h => exact congrArg some h

theorem Value.follow?_append : ∀ (first second : List String) (v : Value),
    v.follow? (first ++ second) = (v.follow? first).bind (Value.follow? second) := by
  intro first
  induction first with
  | nil => intro second v; rfl
  | cons key first ih =>
    intro second v
    rw [List.cons_append, follow?, follow?, Option.bind_assoc]
    exact Option.bind_congr fun child _ => ih second child

theorem Value.follow?_singleton (key : String) (v : Value) : v.follow? [key] = v.get? key := by
  rw [follow?]
  exact Option.bind_fun_some _

namespace Edit

theorem applyPath_cons_of_get? {action : Action} {key : String} {path : List String}
    (hpath : path ≠ []) {v child : Value} (hc : v.get? key = some child) :
    applyPath action (key :: path) v = v.setField key (applyPath action path child) := by
  have h : (Edit.mk path action).path ≠ [] := hpath
  exact apply_under h hc

/-- **What an edit makes of a value on its path** is what the rest of the path makes of it. -/
theorem follow?_applyPath_append (action : Action) {path : List String} (hpath : path ≠ []) :
    ∀ {before : List String} {v w : Value}, v.follow? before = some w →
      (applyPath action (before ++ path) v).follow? before = some (applyPath action path w) := by
  intro before
  induction before with
  | nil =>
    intro v w h
    rw [Value.follow?, Option.some.injEq] at h
    subst h
    rfl
  | cons key before ih =>
    intro v w h
    obtain ⟨child, hc, h⟩ := Option.bind_eq_some_iff.mp h
    have hbelow : before ++ path ≠ [] := List.append_ne_nil_of_right_ne_nil _ hpath
    rw [List.cons_append, applyPath_cons_of_get? hbelow hc, Value.follow?,
      Value.get?_setField_self hc, Option.bind_some]
    exact ih h

/-- An edit changes nothing if it leaves alone what the first segments of its path lead to. -/
theorem applyPath_append_of_fixed {action : Action} {path : List String} (hpath : path ≠ []) :
    ∀ {before : List String} {v : Value},
      (∀ w, v.follow? before = some w → applyPath action path w = w) →
        applyPath action (before ++ path) v = v := by
  intro before
  induction before with
  | nil => intro v h; exact h v rfl
  | cons key before ih =>
    intro v h
    have hbelow : before ++ path ≠ [] := List.append_ne_nil_of_right_ne_nil _ hpath
    cases hc : v.get? key with
    | none =>
      have hedit : (Edit.mk (before ++ path) action).path ≠ [] := hbelow
      exact apply_under_of_get?_eq_none hedit hc
    | some child =>
      have hsame : applyPath action (before ++ path) child = child := by
        refine ih fun w hw => h w ?_
        rw [Value.follow?, hc, Option.bind_some, hw]
      rw [List.cons_append, applyPath_cons_of_get? hbelow hc, hsame, Value.setField_of_get? hc]

/-- A record on the path of an edit stays a record, with its other keys in their order. -/
theorem exists_applyPath_record (action : Action) (key : String) (after : List String)
    (entries : Entries) :
    ∃ left, applyPath action (key :: after) (.record entries) = .record left ∧
      (Assoc.keys left).filter (· != key) = (Assoc.keys entries).filter (· != key) := by
  cases after with
  | nil =>
    cases action with
    | set value => exact ⟨_, rfl, Assoc.filter_keys_insert key value entries⟩
    | delete => exact ⟨_, rfl, Assoc.filter_keys_erase key entries⟩
  | cons next after =>
    rw [applyPath_cons_cons]
    cases (Value.record entries).get? key with
    | none => exact ⟨entries, rfl, rfl⟩
    | some child => exact ⟨_, rfl, Assoc.filter_keys_insert key _ entries⟩

/-! ### The laws -/

/-- The laws of an update: `made` is what an action on the field `last` of the value at the end of
the path `parents` makes of `target`. -/
structure Lawful (target : Value) (parents : List String) (last : String) (action : Action)
    (made : Value) : Prop where
  /-- Without a field to act on nothing happens. -/
  unchanged : (∀ holder, target.follow? parents = some holder → ¬action.Fits last holder) →
    made = target
  /-- What was written is there. -/
  written : ∀ holder value, target.follow? parents = some holder → action = .set value →
    action.Fits last holder → made.follow? (parents ++ [last]) = some value
  /-- What was deleted from a record is not there. -/
  removed : ∀ entries, target.follow? parents = some (.record entries) → action = .delete →
    made.follow? (parents ++ [last]) = none
  /-- What was deleted from an array leaves a hole, and the array keeps its length. -/
  emptied : ∀ items, target.follow? parents = some (.array items) → action = .delete →
    action.Fits last (.array items) → made.follow? (parents ++ [last]) = some .undefined ∧
      ∃ left, made.follow? parents = some (.array left) ∧ left.length = items.length
  /-- A path that leaves the one of the update, at a key of a record or at an index of an array,
  leads to what it led to. -/
  apart : ∀ other, ¬Value.Overlap other (parents ++ [last]) target →
    made.follow? other = target.follow? other
  /-- Every record on the way stays a record, with its other keys in their order. -/
  order : ∀ before key after entries, before ++ key :: after = parents ++ [last] →
    target.follow? before = some (.record entries) →
      ∃ left, made.follow? before = some (.record left) ∧
        (Assoc.keys left).filter (· != key) = (Assoc.keys entries).filter (· != key)

/-- **An edit is a lawful update**, whatever its path leads through. -/
theorem lawful_apply {target : Value} (ht : target.WellFormed) (parents : List String)
    (last : String) (action : Action) :
    Lawful target parents last action (applyAll target [⟨parents ++ [last], action⟩]) := by
  have hlast : [last] ≠ [] := List.cons_ne_nil _ _
  -- what becomes of the value whose field the edit acts on
  have hholder : ∀ holder, target.follow? parents = some holder →
      (applyPath action (parents ++ [last]) target).follow? parents =
        some (action.applyAt last holder) := fun _ => follow?_applyPath_append action hlast
  have hfield : ∀ holder, target.follow? parents = some holder →
      (applyPath action (parents ++ [last]) target).follow? (parents ++ [last]) =
        (action.applyAt last holder).get? last := by
    intro holder h
    rw [Value.follow?_append, hholder holder h, Option.bind_some, Value.follow?_singleton]
  show Lawful target parents last action (applyPath action (parents ++ [last]) target)
  refine ⟨fun h => ?_, fun holder value h ha hfits => ?_, fun entries h ha => ?_,
    fun items h ha hfits => ?_, fun other h => ?_, fun before key after entries hpath h => ?_⟩
  · exact applyPath_append_of_fixed hlast fun w hw => Action.applyAt_of_not_fits (h w hw)
  · rw [hfield holder h]
    subst ha
    exact Value.get?_setField_of_takes hfits value
  · rw [hfield _ h]
    subst ha
    have hdistinct := (Value.wellFormed_record.mp (ht.of_occurs (Value.occurs_of_follow? h))).1
    exact Assoc.get?_erase_self hdistinct
  · subst ha
    obtain ⟨i, hk, hi⟩ := hfits
    rw [hfield _ h, hholder _ h, Action.applyAt, Value.deleteField_array hk, Value.get?_array hk,
      List.getElem?_set_self hi]
    exact ⟨rfl, _, rfl, List.length_set ..⟩
  · exact (Value.eq_of_rel (along_applyPath action h).follow?).symm
  · obtain ⟨left, hleft, hkeys⟩ := exists_applyPath_record action key after entries
    refine ⟨left, ?_, hkeys⟩
    rw [← hpath, follow?_applyPath_append action (List.cons_ne_nil _ _) h, hleft]

/-- A write behind the last item of an array that stands in a record, the index with a sign. -/
theorem lawful_apply_item :
    let target : Value := .record [("a", .array [.record [("b", .null)]]), ("c", .bool true)]
    let made := applyAll target [⟨["a", "+1"], .set (.string "x")⟩]
    target.WellFormed ∧ made.follow? ["a", "+1"] = some (.string "x") ∧
      made.follow? ["a", "00", "b"] = target.follow? ["a", "00", "b"] ∧
      made.follow? ["c"] = target.follow? ["c"] := by
  intro target made
  have ht : target.WellFormed := by simp [target]
  have hone : Path.index? "+1" = some 1 := by decide +kernel
  have hzero : Path.index? "00" = some 0 := by decide +kernel
  have hlaws := lawful_apply ht ["a"] "+1" (.set (.string "x"))
  refine ⟨ht, ?_, ?_, ?_⟩
  · exact hlaws.written _ _ rfl rfl ⟨1, hone, Nat.le_refl 1⟩
  · refine hlaws.apart _ ?_
    rintro ⟨-, (h | ⟨-, -, h⟩), -⟩
    · simp at h
    · rw [hone, hzero] at h
      cases h
  · refine hlaws.apart _ ?_
    rintro ⟨(h | ⟨h, -⟩), -⟩
    · simp at h
    · cases h

end Edit

end RecordQuery

import Mathlib.Data.List.Induction
import Mathlib.Data.List.Perm.Basic
import RecordQuery.Proofs.Assoc
import RecordQuery.Proofs.Transform.Arrays

/-!
# Groups of items

Grouping takes an array apart: items whose keys have the same text come together, and nothing is
lost or moved within a group.

* `Items.group_append_singleton`: one further item joins the group of its key.
* `Items.keys_group`: the names of the groups are the texts of the keys, in the order in which they
  first appear.
* `Items.members_group`: the members of a group are the items with its name as the text of their
  key.
* `Items.perm_members_group`: the groups together hold each item as often as the array does.
* `Items.groupBy_partition`: what `$groupBy` makes of a value.
-/

namespace RecordQuery.Items

/-! ### One further item -/

theorem eraseDups_append_singleton (names : List String) (name : String) :
    (names ++ [name]).eraseDups =
      if name ∈ names then names.eraseDups else names.eraseDups ++ [name] := by
  rw [List.eraseDups_append]
  split
  · next h => simp [List.removeAll, h]
  · next h => simp [List.removeAll, h, List.eraseDups_cons]

variable {key : Value → String}

theorem group_append_singleton (items : List Value) (item : Value) :
    group key (items ++ [item]) = addToGroup (key item) item (group key items) := by
  rw [group, List.foldl_append]
  rfl

theorem perm_members_addToGroup (name : String) (item : Value)
    (groups : List (String × List Value)) :
    ((addToGroup name item groups).flatMap Prod.snd).Perm (groups.flatMap Prod.snd ++ [item]) := by
  unfold addToGroup
  induction groups with
  | nil => exact List.Perm.refl _
  | cons first rest ih =>
    obtain ⟨k, members⟩ := first
    by_cases hk : k = name
    · subst hk
      rw [Assoc.get?_cons_self, Assoc.insert, if_pos rfl, List.flatMap_cons, List.flatMap_cons]
      simp only [Option.getD_some, List.append_assoc]
      exact List.perm_append_comm.append_left members
    · rw [Assoc.get?_cons_of_ne hk, Assoc.insert, if_neg hk, List.flatMap_cons, List.flatMap_cons,
        List.append_assoc]
      exact ih.append_left members

/-! ### All items -/

/-- The names of the groups are the texts of the keys, each where it first appears. -/
theorem keys_group (items : List Value) :
    Assoc.keys (group key items) = (items.map key).eraseDups := by
  induction items using List.reverseRecOn with
  | nil => rfl
  | append_singleton items last ih =>
    rw [group_append_singleton, addToGroup, Assoc.keys_insert, ih, List.map_append,
      List.map_singleton, eraseDups_append_singleton]
    simp only [List.mem_eraseDups]

theorem nodup_keys_group (items : List Value) : (Assoc.keys (group key items)).Nodup := by
  induction items using List.reverseRecOn with
  | nil => exact List.nodup_nil
  | append_singleton items last ih =>
    rw [group_append_singleton]
    exact Assoc.nodup_insert ih

theorem getD_get?_group (name : String) (items : List Value) :
    (Assoc.get? name (group key items)).getD [] = items.filter fun item => key item == name := by
  induction items using List.reverseRecOn with
  | nil => rfl
  | append_singleton items last ih =>
    rw [group_append_singleton, addToGroup, Assoc.get?_insert, List.filter_append, ← ih]
    by_cases hk : key last = name
    · rw [if_pos hk, hk]
      simp [hk]
    · rw [if_neg hk]
      simp [hk]

/-- **The members of a group** are the items with its name as the text of their key. -/
theorem members_group {name : String} {members items : List Value}
    (h : (name, members) ∈ group key items) :
    members = items.filter fun item => key item == name := by
  rw [← getD_get?_group, Assoc.get?_of_mem (nodup_keys_group items) h, Option.getD_some]

theorem ne_nil_of_mem_group {name : String} {members items : List Value}
    (h : (name, members) ∈ group key items) : members ≠ [] := by
  have hname := Assoc.mem_keys_of_mem h
  rw [keys_group, List.mem_eraseDups] at hname
  obtain ⟨item, hi, rfl⟩ := List.mem_map.mp hname
  rw [members_group h]
  exact List.ne_nil_of_mem (List.mem_filter.mpr ⟨hi, beq_self_eq_true _⟩)

theorem mem_group_of_mem {items : List Value} {item : Value} (h : item ∈ items) :
    (key item, items.filter fun other => key other == key item) ∈ group key items := by
  have hname : key item ∈ Assoc.keys (group key items) := by
    rw [keys_group, List.mem_eraseDups]
    exact List.mem_map_of_mem h
  obtain ⟨⟨name, members⟩, hentry, rfl⟩ := List.mem_map.mp hname
  rwa [members_group hentry] at hentry

/-- The groups together hold the items, each as often as the array does. -/
theorem perm_members_group (items : List Value) :
    ((group key items).flatMap Prod.snd).Perm items := by
  induction items using List.reverseRecOn with
  | nil => exact List.Perm.refl _
  | append_singleton items last ih =>
    rw [group_append_singleton]
    exact (perm_members_addToGroup _ _ _).trans (ih.append_right [last])

/-! ### The projection -/

/-- The text of the key of an item: by a function of the caller, or by the name of a field. -/
def keyText? (functions : Functions) : Value → Option (Value → String)
  | .function f => some fun item => (functions f [item]).text
  | .string name => some fun item => (item.field name).text
  | _ => none

theorem groupBy?_of_keyText? {functions : Functions} {key : Value} {text : Value → String}
    (h : keyText? functions key = some text) (items : List Value) :
    groupBy? functions key items =
      some (.record ((group text items).map fun entry => (entry.1, .array entry.2))) := by
  cases key with
  | function f => cases h; rfl
  | string name => cases h; rfl
  | _ => cases h

theorem groupBy?_of_keyText?_eq_none {functions : Functions} {key : Value}
    (h : keyText? functions key = none) (items : List Value) :
    groupBy? functions key items = if items.isEmpty then some (.record []) else none := by
  cases key with
  | function f => cases h
  | string name => cases h
  | _ => rfl

theorem keyText?_eq_none_iff (functions : Functions) {key : Value} :
    keyText? functions key = none ↔ (∀ name, key ≠ .string name) ∧ ∀ f, key ≠ .function f := by
  cases key <;> simp [keyText?]

theorem projected?_groupBy (functions : Functions) (subject options : Value) :
    subject.projected? functions "$groupBy" options =
      subject.array?.bind (groupBy? functions (options.field "key")) := by
  refine Value.projected?_ofPartial (f := fun subject options =>
    subject.array?.bind fun items => groupBy? functions (options.field "key") items)
    rfl rfl rfl fun h => ?_
  obtain ⟨items, -, h⟩ := Option.bind_eq_some_iff.mp h
  cases hkey : keyText? functions (options.field "key") with
  | none =>
    rw [groupBy?_of_keyText?_eq_none hkey] at h
    split at h <;> cases h
  | some text =>
    rw [groupBy?_of_keyText? hkey] at h
    cases h

open scoped Classical in
/-- How often an item stands in a list. -/
noncomputable def occurrences (item : Value) (items : List Value) : Nat :=
  items.countP fun other => decide (other = item)

theorem occurrences_filter (text : Value → String) (item : Value) (items : List Value) :
    occurrences item (items.filter fun other => text other == text item) =
      occurrences item items := by
  classical
  rw [occurrences, occurrences, List.countP_filter]
  refine List.countP_congr fun other _ => ?_
  rw [Bool.and_eq_true, beq_iff_eq]
  exact and_iff_left_of_imp fun h => congrArg text (of_decide_eq_true h)

/-- **`$groupBy` takes an array apart.**  There is no match exactly for what is no array, and for an
array with items if the key is neither a text nor a function.  The groups have the distinct texts of
the keys as their names, in the order in which these first appear; the members of each are the items
with its name as the text of their key, in the order of the array, and there are some; and each item
has one group, which holds it as often as the array does. -/
theorem groupBy_partition (functions : Functions) (subject options : Value) :
    (subject.projected? functions "$groupBy" options = none ↔
      (∀ items, subject ≠ .array items) ∨ subject ≠ .array [] ∧
        (∀ name, options.field "key" ≠ .string name) ∧ ∀ f, options.field "key" ≠ .function f) ∧
    (subject = .array [] → subject.projected? functions "$groupBy" options = some (.record [])) ∧
    ∀ items text, subject = .array items → keyText? functions (options.field "key") = some text →
      ∃ groups : List (String × List Value),
        subject.projected? functions "$groupBy" options =
          some (.record (groups.map fun entry => (entry.1, .array entry.2))) ∧
        groups.map Prod.fst = (items.map text).eraseDups ∧
        (∀ name members, (name, members) ∈ groups →
          members = items.filter (fun item => text item == name) ∧ members ≠ []) ∧
        (groups.flatMap Prod.snd).Perm items ∧
        ∀ item ∈ items, ∃ members, (text item, members) ∈ groups ∧
          occurrences item members = occurrences item items ∧
          ∀ other ∈ groups, item ∈ other.2 → other = (text item, members) := by
  rw [projected?_groupBy]
  refine ⟨?_, ?_, ?_⟩
  · cases subject with
    | array items =>
      show groupBy? functions (options.field "key") items = none ↔ _
      rw [← keyText?_eq_none_iff functions]
      cases hkey : keyText? functions (options.field "key") with
      | none =>
        rw [groupBy?_of_keyText?_eq_none hkey]
        cases items <;> simp
      | some text =>
        rw [groupBy?_of_keyText? hkey]
        simp
    | _ => exact iff_of_true rfl (.inl fun _ => by rintro ⟨⟩)
  · rintro rfl
    cases hkey : keyText? functions (options.field "key") with
    | none => exact groupBy?_of_keyText?_eq_none hkey []
    | some text => exact groupBy?_of_keyText? hkey []
  · rintro items text rfl hkey
    refine ⟨group text items, groupBy?_of_keyText? hkey items, keys_group items,
      fun name members h => ⟨members_group h, ne_nil_of_mem_group h⟩, perm_members_group items,
      fun item hi => ⟨_, mem_group_of_mem hi, occurrences_filter text item items, ?_⟩⟩
    rintro ⟨name, members⟩ hentry hmem
    rw [members_group hentry] at hmem ⊢
    rw [beq_iff_eq.mp (List.mem_filter.mp hmem).2]

/-- Keys of several kinds with one text, a record without the field, and an item that is no
record. -/
theorem groupBy_partition_mixed :
    let functions : Functions := fun _ _ => .undefined
    let truth : Value := .record [("k", .bool true)]
    let word : Value := .record [("k", .string "true")]
    let items : List Value := [truth, .null, word, .record [], truth]
    ∃ groups : List (String × List Value),
      Value.projected? functions (.array items) "$groupBy" (.record [("key", .string "k")]) =
        some (.record (groups.map fun entry => (entry.1, .array entry.2))) ∧
      groups.map Prod.fst = ["true", "undefined"] ∧
      (∀ members, ("true", members) ∈ groups → members = [truth, word, truth]) ∧
      ∀ members, ("undefined", members) ∈ groups → members = [.null, .record []] := by
  intro functions truth word items
  obtain ⟨-, -, h⟩ := groupBy_partition functions (.array items) (.record [("key", .string "k")])
  obtain ⟨groups, hmade, hnames, hmembers, -⟩ := h items _ rfl rfl
  refine ⟨groups, hmade, hnames.trans (by decide), fun members hm => ?_, fun members hm => ?_⟩
  · rw [(hmembers _ _ hm).1]
    rfl
  · rw [(hmembers _ _ hm).1]
    rfl

end RecordQuery.Items

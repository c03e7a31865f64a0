import RecordQuery.Pattern.Builtin
import RecordQuery.Proofs.Pattern.Kept
import RecordQuery.Proofs.Sorting.Stability
import RecordQuery.Proofs.Value.Filled

/-!
# Builtin transforms make no missing fields

A transform takes its results from its subject and its options, or makes texts, numbers and arrays
of its own; the records that it makes have no field that is `undefined`.  What a function of the
caller returns is taken as it is.

* `Items.mem_of_mem_chunks`, `Items.occurs_of_mem_flatten`, `Items.mem_of_mem_group`: where the
  items of a result come from.
* `Transform.Fills`: a transform makes values without missing fields of such values.
* `Transform.fills_of_mem_builtins`: the builtin transforms do.
-/

namespace RecordQuery

/-! ### Where items come from -/

namespace Items

open Value (Occurs)

theorem mem_of_mem_nub {items : List Value} {item : Value} (h : item ∈ nub items) :
    item ∈ items := by
  have hall : ∀ (rest kept : List Value), item ∈ rest.foldl
      (fun kept item => if Value.isIn kept item then kept else kept ++ [item]) kept →
        item ∈ kept ∨ item ∈ rest := by
    intro rest
    induction rest with
    | nil => exact fun kept hk => Or.inl hk
    | cons next rest ih =>
      intro kept hk
      rw [List.foldl_cons] at hk
      rcases ih _ hk with hm | hm
      · split at hm
        · exact Or.inl hm
        · rcases List.mem_append.mp hm with hm | hm
          · exact Or.inl hm
          · exact Or.inr (List.mem_singleton.mp hm ▸ List.mem_cons_self)
      · exact Or.inr (List.mem_cons_of_mem _ hm)
  exact (hall items [] h).resolve_left List.not_mem_nil

theorem mem_of_mem_chunks {size : Nat} {items chunk : List Value} {item : Value}
    (hc : chunk ∈ chunks size items) (hi : item ∈ chunk) : item ∈ items := by
  induction items using chunks.induct size with
  | case1 items hstop =>
    rw [chunks, dif_pos hstop] at hc
    cases hc
  | case2 items hstop ih =>
    rw [chunks, dif_neg hstop] at hc
    rcases List.mem_cons.mp hc with rfl | hc
    · exact List.mem_of_mem_take hi
    · exact List.mem_of_mem_drop (ih hc)

mutual

theorem occurs_of_mem_flattenItem {x : Value} : ∀ (item : Value) (depth : Option Nat),
    x ∈ flattenItem item depth → Occurs x item
  | .array items, none => fun h => by
    obtain ⟨item, hi, ho⟩ := occurs_of_mem_flatten items none h
    exact .item hi ho
  | .array items, some (depth + 1) => fun h => by
    obtain ⟨item, hi, ho⟩ := occurs_of_mem_flatten items (some depth) h
    exact .item hi ho
  | .array _, some 0 => fun h => by
    rw [flattenItem] at h
    exact List.mem_singleton.mp h ▸ .self
    all_goals simp
  | .undefined, _ | .null, _ | .bool _, _ | .number _, _ | .string _, _ | .date _, _ | .binary _, _
  | .record _, _ | .function _, _ => fun h => by
    rw [flattenItem] at h
    exact List.mem_singleton.mp h ▸ .self
    all_goals simp

/-- What flattening leaves has been an item at some depth. -/
theorem occurs_of_mem_flatten {x : Value} : ∀ (items : List Value) (depth : Option Nat),
    x ∈ flatten items depth → ∃ item ∈ items, Occurs x item
  | [], _ => fun h => by cases h
  | item :: items, depth => fun h => by
    rw [flatten] at h
    rcases List.mem_append.mp h with h | h
    · exact ⟨item, List.mem_cons_self, occurs_of_mem_flattenItem item depth h⟩
    · obtain ⟨other, hm, ho⟩ := occurs_of_mem_flatten items depth h
      exact ⟨other, List.mem_cons_of_mem _ hm, ho⟩

end

theorem mem_of_mem_group {key : Value → String} {items : List Value} {entry : String × List Value}
    {item : Value} (he : entry ∈ group key items) (hi : item ∈ entry.2) : item ∈ items := by
  have hall : ∀ (rest : List Value) (groups : List (String × List Value)),
      entry ∈ rest.foldl (fun groups item => addToGroup (key item) item groups) groups →
        (∃ old ∈ groups, item ∈ old.2) ∨ item ∈ rest := by
    intro rest
    induction rest with
    | nil => exact fun groups hm => Or.inl ⟨entry, hm, hi⟩
    | cons next rest ih =>
      intro groups hm
      rw [List.foldl_cons] at hm
      rcases ih _ hm with ⟨old, ho, hmem⟩ | hm
      · rcases Assoc.mem_insert ho with rfl | ho
        · -- the group that the item joins
          rcases List.mem_append.mp hmem with hmem | hmem
          · cases hg : Assoc.get? (key next) groups with
            | none => rw [hg] at hmem; cases hmem
            | some group =>
              rw [hg] at hmem
              exact Or.inl ⟨_, Assoc.mem_of_get? hg, hmem⟩
          · exact Or.inr (List.mem_singleton.mp hmem ▸ List.mem_cons_self)
        · exact Or.inl ⟨old, ho, hmem⟩
      · exact Or.inr (List.mem_cons_of_mem _ hm)
  rcases hall items [] he with ⟨_, hm, -⟩ | hm
  · cases hm
  · exact hm

end Items

/-! ### Transforms by their kind -/

namespace Transform

open Value (Filled)

/-- The transform makes values without missing fields of such values. -/
def Fills (transform : Transform) : Prop :=
  ∀ (subject options : Value) (around : Surroundings options.weight), subject.Filled →
    options.Filled → (transform.apply subject options around).Holds Filled

theorem fills_ofPartial {f : (subject options : Value) → Option Value}
    (h : ∀ subject options v, subject.Filled → options.Filled → f subject options = some v →
      v.Filled) : (ofPartial f).Fills := by
  intro subject options around hs ho
  show (Projection.ofOption (f subject options)).Holds Filled
  cases hv : f subject options with
  | none => trivial
  | some v => exact h subject options v hs ho hv

theorem fills_ofSubject {f : Value → Option Value}
    (h : ∀ subject v, subject.Filled → f subject = some v → v.Filled) : (ofSubject f).Fills :=
  fills_ofPartial fun subject _ v hs _ => h subject v hs

theorem fills_ofItems {f : (items : List Value) → (options : Value) → Option Value}
    (h : ∀ items options v, (∀ item ∈ items, item.Filled) → options.Filled →
      f items options = some v → v.Filled) : (ofItems f).Fills := by
  refine fills_ofPartial fun subject options v hs ho hv => ?_
  cases subject with
  | array items => exact h items options v (Value.filled_array.mp hs) ho hv
  | _ => cases hv

theorem fills_ofTwoLists {f : (items others : List Value) → List Value}
    (h : ∀ items others, ∀ item ∈ f items others, item ∈ items ∨ item ∈ others) :
    (ofTwoLists f).Fills := by
  refine fills_ofPartial fun subject options v hs ho hv => ?_
  split at hv
  · next items others heq =>
    cases hv
    rw [Value.filled_array] at hs ⊢
    have hothers := ho.field "array"
    rw [heq, Value.filled_array] at hothers
    intro item hi
    exact (h items others item hi).elim (hs item) (hothers item)
  · cases hv

theorem fills_ofText {f : (s : String) → (options : Value) → Option Value}
    (h : ∀ s options v, f s options = some v → v.Filled) : (ofText f).Fills := by
  refine fills_ofPartial fun subject options v _ _ hv => ?_
  cases subject with
  | string s => exact h s options v hv
  | _ => cases hv

theorem filled_of_arrayOption? {options : Value} {key : String} {items : List Value}
    (ho : options.Filled) (h : options.arrayOption? key = some items) :
    ∀ item ∈ items, item.Filled := by
  have hfield := ho.field key
  unfold Value.arrayOption? at h
  split at h
  · cases h
    simp
  · next heq =>
    cases h
    rw [heq] at hfield
    exact Value.filled_array.mp hfield
  · cases h

theorem filled_of_map {α : Type} {f : α → Value} (hf : ∀ a, (f a).Filled) {o : Option α} {v : Value}
    (h : o.map f = some v) : v.Filled := by
  obtain ⟨a, -, rfl⟩ := Option.map_eq_some_iff.mp h
  exact hf a

/-! ### The builtin transforms -/

theorem fills_ofOperands (f : List Float → Option Float) : (ofOperands f).Fills :=
  fills_ofPartial fun _ _ _ _ _ h => filled_of_map Value.filled_number h

theorem filled_of_product? {subject options v : Value} (h : subject.product? options = some v) :
    v.Filled := by
  unfold Value.product? at h
  split at h
  · simp only [Option.bind_eq_bind, Option.bind_eq_some_iff] at h
    obtain ⟨_, -, _, -, h⟩ := h
    split at h <;> obtain ⟨_, -, h⟩ := Option.bind_eq_some_iff.mp h <;> cases h <;>
      exact Value.filled_array_map Value.filled_number _
  · exact filled_of_map (fun _ => Value.filled_number _) h

theorem filled_of_dot? {subject options v : Value} (h : subject.dot? options = some v) :
    v.Filled := by
  unfold Value.dot? at h
  dsimp only at h
  split at h
  · split at h
    · simp only [Option.bind_eq_bind, Option.bind_eq_some_iff] at h
      obtain ⟨_, -, _, -, h⟩ := h
      cases h
      exact Value.filled_number _
    · exact filled_of_map (fun _ => Value.filled_number _) h
  · exact filled_of_map (fun _ => Value.filled_number _) h

theorem filled_of_statistics? {xs : List Float} {v : Value} (h : Value.statistics? xs = some v) :
    v.Filled := by
  unfold Value.statistics? at h
  split at h
  · cases h
  · cases h
    simp

theorem fills_aggregates : ∀ entry ∈ aggregates, entry.2.Fills := by
  simp only [aggregates, List.forall_mem_cons]
  refine ⟨fills_ofOperands _, fills_ofOperands _, fills_ofOperands _, fills_ofOperands _, ?_, ?_,
    fills_ofOperands _, ?_, ?_, by simp⟩
  · exact fills_ofPartial fun _ _ _ _ _ h => filled_of_product? h
  · exact fills_ofPartial fun _ _ _ _ _ h => filled_of_dot? h
  · refine fills_ofPartial fun _ _ _ _ _ h => ?_
    obtain ⟨_, -, h⟩ := Option.bind_eq_some_iff.mp h
    exact filled_of_map Value.filled_number h
  · refine fills_ofPartial fun _ _ _ _ _ h => ?_
    obtain ⟨_, -, h⟩ := Option.bind_eq_some_iff.mp h
    exact filled_of_statistics? h

theorem filled_of_groupBy? {functions : Functions} {key v : Value} {items : List Value}
    (hi : ∀ item ∈ items, item.Filled) (h : Items.groupBy? functions key items = some v) :
    v.Filled := by
  have hgroups : ∀ text : Value → String,
      (Value.record
        ((Items.group text items).map fun entry => (entry.1, .array entry.2))).Filled := by
    intro text
    rw [Value.filled_record, List.forall_mem_map]
    refine fun entry he => ⟨by simp, Value.filled_array.mpr fun item hm => ?_⟩
    exact hi item (Items.mem_of_mem_group he hm)
  unfold Items.groupBy? at h
  dsimp only at h
  split at h
  · cases h; exact hgroups _
  · cases h; exact hgroups _
  · split at h
    · cases h; simp
    · cases h

theorem fills_arrays (functions : Functions) : ∀ entry ∈ arrays functions, entry.2.Fills := by
  have hsome : ∀ {items results : List Value} {v : Value}, (∀ item ∈ items, item.Filled) →
      (∀ item ∈ results, item ∈ items) → some (Value.array results) = some v → v.Filled := by
    intro items results v hi hsub h
    cases h
    exact Value.filled_array.mpr fun item hm => hi item (hsub item hm)
  simp only [arrays, List.forall_mem_cons]
  refine ⟨?chunk, ?compact, ?difference, ?setDifference, ?intersection, ?union, ?unique, ?flatten,
    ?groupBy, ?slice, ?splice, ?sort, ?push, ?unshift, ?pop, ?shift, by simp⟩
  case chunk =>
    refine fills_ofItems fun items options v hi _ h => ?_
    split at h
    · cases h
      rw [Value.filled_array, List.forall_mem_map]
      exact fun chunk hc => Value.filled_array.mpr fun item hm =>
        hi item (Items.mem_of_mem_chunks hc hm)
    · cases h
  case compact =>
    exact fills_ofItems fun items options v hi _ h =>
      hsome hi (fun _ hm => (List.mem_filter.mp hm).1) h
  case difference | setDifference | intersection =>
    exact fills_ofTwoLists fun items others item hm => Or.inl (List.mem_filter.mp hm).1
  case union =>
    exact fills_ofTwoLists fun items others item hm => List.mem_append.mp (Items.mem_of_mem_nub hm)
  case unique =>
    exact fills_ofItems fun items options v hi _ h => hsome hi (fun _ => Items.mem_of_mem_nub) h
  case flatten =>
    refine fills_ofItems fun items options v hi _ h => ?_
    cases h
    refine Value.filled_array.mpr fun x hx => ?_
    obtain ⟨item, hm, ho⟩ := Items.occurs_of_mem_flatten items _ hx
    exact (hi item hm).of_occurs ho
  case groupBy => exact fills_ofItems fun items options v hi _ h => filled_of_groupBy? hi h
  case slice =>
    refine fills_ofItems fun items options v hi _ h => ?_
    exact hsome hi (fun _ hm => List.mem_of_mem_drop (List.mem_of_mem_take hm)) h
  case splice =>
    refine fills_ofItems fun items options v hi ho h => ?_
    obtain ⟨inserted, hinserted, rfl⟩ := Option.map_eq_some_iff.mp h
    simp only [Value.filled_array, Items.splice, List.forall_mem_append]
    exact ⟨⟨fun item hm => hi item (List.mem_of_mem_take hm), filled_of_arrayOption? ho hinserted⟩,
      fun item hm => hi item (List.mem_of_mem_drop hm)⟩
  case sort =>
    refine fills_ofItems fun items options v hi _ h => ?_
    split at h
    · exact hsome hi (fun _ => (Order.perm_sortBy _ items).mem_iff.mp) h
    · refine hsome hi (fun item hm => ?_) h
      unfold Items.sortNaturally at hm
      dsimp only at hm
      split at hm
      · exact (Order.perm_sortBy _ items).mem_iff.mp (List.mem_reverse.mp hm)
      · exact (Order.perm_sortBy _ items).mem_iff.mp hm
  case push =>
    exact fills_ofTwoLists fun items others item hm => List.mem_append.mp hm
  case unshift =>
    exact fills_ofTwoLists fun items others item hm => (List.mem_append.mp hm).symm
  case pop =>
    exact fills_ofItems fun items options v hi _ h => hi v (List.mem_of_getLast? h)
  case shift =>
    exact fills_ofItems fun items options v hi _ h => hi v (List.mem_of_head? h)

theorem filled_of_splitText? {s : String} {separator : Value} {parts : List Value}
    (h : Value.splitText? s separator = some parts) : (Value.array parts).Filled := by
  unfold Value.splitText? at h
  split at h
  · cases h
    simp
  · cases h
    exact Value.filled_array_map (fun _ => Value.filled_string _) _
  · cases h

theorem filled_of_replaceText? {read? : String → Option Regex} {s : String} {options v : Value}
    (h : Value.replaceText? read? s options = some v) : v.Filled := by
  simp only [Value.replaceText?, Option.bind_eq_bind, Option.bind_eq_some_iff] at h
  obtain ⟨_, -, _, -, h⟩ := h
  cases h
  exact Value.filled_string _

theorem filled_of_fillTemplate? {subject options v : Value}
    (h : subject.fillTemplate? options = some v) : v.Filled := by
  unfold Value.fillTemplate? at h
  split at h
  · cases h
  · exact filled_of_map (fun _ => Value.filled_string _) h

theorem fills_textuals : ∀ entry ∈ textuals, entry.2.Fills := by
  simp only [textuals, List.forall_mem_cons]
  refine ⟨?capitalize, ?trim, ?split, ?join, ?replace, ?toBoolean, ?toDate, ?toNumber, ?toString,
    ?format, ?dateFormat, by simp⟩
  case capitalize | trim =>
    refine fills_ofText fun s options v h => ?_
    cases h
    exact Value.filled_string _
  case split =>
    refine fills_ofText fun s options v h => ?_
    obtain ⟨parts, hparts, rfl⟩ := Option.map_eq_some_iff.mp h
    exact filled_of_splitText? hparts
  case join =>
    refine fills_ofItems fun items options v _ _ h => ?_
    cases h
    exact Value.filled_string _
  case replace => exact fills_ofText fun s options v h => filled_of_replaceText? h
  case toBoolean =>
    refine fills_ofPartial fun subject options v _ _ h => ?_
    cases h
    exact Value.filled_bool _
  case toDate => exact fills_ofSubject fun subject v _ h => filled_of_map Value.filled_date h
  case toNumber =>
    exact fills_ofPartial fun subject options v _ _ h => filled_of_map Value.filled_number h
  case toString =>
    refine fills_ofPartial fun subject options v _ _ h => ?_
    split at h
    · cases h
    · cases h
      exact Value.filled_string _
  case format => exact fills_ofPartial fun subject options v _ _ h => filled_of_fillTemplate? h
  case dateFormat =>
    exact fills_ofPartial fun subject options v _ _ h =>
      filled_of_map (fun _ => Value.filled_string _) h

theorem fills_ofUnary (f : Float → Float) : (ofUnary f).Fills :=
  fills_ofSubject fun _ _ _ h => filled_of_map (fun _ => Value.filled_number _) h

theorem fills_ofBinary (key : String) (f : Float → Float → Float) : (ofBinary key f).Fills := by
  refine fills_ofPartial fun subject options v _ _ h => ?_
  split at h <;> cases h
  exact Value.filled_number _

theorem fills_ofTernary (key₁ key₂ : String) (f : Float → Float → Float → Float) :
    (ofTernary key₁ key₂ f).Fills := by
  refine fills_ofPartial fun subject options v _ _ h => ?_
  split at h <;> cases h
  exact Value.filled_number _

theorem fills_numerics : ∀ entry ∈ numerics, entry.2.Fills := by
  simp only [numerics, List.forall_mem_append, List.forall_mem_map, List.forall_mem_cons]
  refine ⟨fun entry _ => fills_ofUnary entry.2, fills_ofBinary _ _, fills_ofBinary _ _,
    fills_ofBinary _ _, ?_, fills_ofTernary _ _ _, fills_ofTernary _ _ _, fills_ofTernary _ _ _,
    by simp⟩
  exact fills_ofPartial fun _ _ _ _ _ h => filled_of_map (fun _ => Value.filled_number _) h

theorem filled_of_mem_numbered {items : List Value} (hi : ∀ item ∈ items, item.Filled) :
    ∀ entry ∈ Value.numbered items, entry.2.Filled := by
  rw [Value.numbered, List.forall_mem_map]
  exact fun entry he => hi entry.1 (List.fst_mem_of_mem_zipIdx he)

theorem filled_of_members? {subject : Value} {members : List (String × Value)}
    (hs : subject.Filled) (h : subject.members? = some members) :
    ∀ entry ∈ members, entry.2.Filled := by
  unfold Value.members? at h
  split at h <;> cases h
  · exact fun entry he => (Value.filled_record.mp hs entry he).2
  · exact filled_of_mem_numbered (Value.filled_array.mp hs)
  · refine filled_of_mem_numbered ?_
    rw [List.forall_mem_map]
    exact fun _ _ => Value.filled_string _
  · simp

theorem fills_ofMembers {f : String → Value → Value}
    (hf : ∀ key value, value.Filled → (f key value).Filled) : (ofMembers f).Fills := by
  refine fills_ofSubject fun subject v hs h => ?_
  obtain ⟨members, hm, rfl⟩ := Option.map_eq_some_iff.mp h
  rw [Value.filled_array, List.forall_mem_map]
  exact fun entry he => hf _ _ (filled_of_members? hs hm entry he)

/-- Transforms that look at the make-up of a value; `$define` writes what it is told to. -/
theorem fills_reflectives {functions : Functions}
    (hf : ∀ name v, v.Filled → (functions name [v]).Filled) :
    ∀ entry ∈ reflectives functions, entry.2.Fills := by
  simp only [reflectives, List.forall_mem_cons]
  refine ⟨?keys, ?values, ?entries, ?type, ?classname, ?default, ?parse, ?stringify, ?eval, ?call,
    ?define, ?drop, by simp⟩
  case keys => exact fills_ofMembers fun key value _ => Value.filled_string key
  case values => exact fills_ofMembers fun key value h => h
  case entries => exact fills_ofMembers fun key value h => by simp [h]
  case type =>
    refine fills_ofSubject fun subject v _ h => ?_
    cases h
    exact Value.filled_string _
  case classname => exact fills_ofSubject fun subject v _ h => filled_of_map Value.filled_string h
  case default =>
    intro subject options around _ ho
    dsimp only
    split
    · exact ho.field "value"
    · trivial
  case parse =>
    exact fills_ofText fun s options v h => filled_of_map Value.filled_ofJson h
  case stringify =>
    exact fills_ofPartial fun subject options v _ _ h => filled_of_map Value.filled_string h
  case eval => exact fills_ofSubject fun subject v _ h => filled_of_map Value.filled_number h
  case call =>
    refine fills_ofPartial fun subject options v hs _ h => ?_
    obtain ⟨name, -, rfl⟩ := Option.map_eq_some_iff.mp h
    exact hf name subject hs
  case define =>
    intro subject options around hs ho record key previous _ _
    rw [List.forall_mem_singleton]
    show (subject.definedValue options).Filled
    unfold Value.definedValue
    dsimp only
    split
    · exact ho.field "value"
    · exact hs
  case drop =>
    intro subject options around _ _
    dsimp only
    split <;> split <;> trivial

/-- **The builtin transforms make no missing fields**, if the functions of the caller make none. -/
theorem fills_of_mem_builtins {functions : Functions}
    (hf : ∀ name v, v.Filled → (functions name [v]).Filled) :
    ∀ entry ∈ builtins functions, entry.2.Fills := by
  simp only [builtins, List.forall_mem_append]
  exact ⟨⟨⟨⟨fills_aggregates, fills_arrays functions⟩, fills_textuals⟩, fills_numerics⟩,
    fills_reflectives hf⟩

end Transform

end RecordQuery

import Mathlib.Data.List.Induction
import RecordQuery.Proofs.Pattern.Combination
import RecordQuery.Proofs.Transform.Arrays
import RecordQuery.Proofs.Transform.Filled
import RecordQuery.Proofs.Value.Equality

/-!
# Arrays as sets

Membership in an array goes by `Value.same`, which can be turned around and chained but is not
reflexive: an array that holds a NaN is not a member of the array that has it as its item.  The
operators that treat arrays as sets obey the laws of sets all the same, as long as no law asks
whether an item is a member of its own array.

* `Items.isIn_congr`: the same values are members of the same arrays.
* `Items.meets_comm`, `Items.isSubset_trans`: common members and inclusion.
* `Items.Interleaved`: a list is put together from two others.
* `Items.isIn_nub`, `Items.pairwise_nub`, `Items.nub_eq_filter`: first occurrences.
* `Items.holds`, `Items.made?`: the builtin operators on two arrays.
* `Items.set_algebra`: the laws of the operators.
-/

namespace RecordQuery.Items

open RecordQuery.Value (isIn same WellFormed partialEquivalence_same)

/-! ### Members -/

theorem isIn_iff {items : List Value} {v : Value} :
    isIn items v = true ↔ ∃ item ∈ items, same item v = true := List.any_eq_true

theorem isIn_append (first second : List Value) (v : Value) :
    isIn (first ++ second) v = (isIn first v || isIn second v) := List.any_append

theorem isIn_singleton (item v : Value) : isIn [item] v = same item v := by
  rw [isIn, List.any_cons, List.any_nil, Bool.or_false]

variable {a b c : List Value}

theorem isIn_of_same (ha : ∀ item ∈ a, item.WellFormed) {v w : Value} (hv : v.WellFormed)
    (hw : w.WellFormed) (hvw : same v w = true) (h : isIn a v = true) : isIn a w = true := by
  obtain ⟨item, hi, hsame⟩ := isIn_iff.mp h
  exact isIn_iff.mpr ⟨item, hi, partialEquivalence_same.trans (ha item hi) hv hw hsame hvw⟩

/-- Some item of one list is a member of another one exactly if this holds the other way round. -/
theorem meets_comm (ha : ∀ item ∈ a, item.WellFormed) (hb : ∀ item ∈ b, item.WellFormed) :
    meets a b = meets b a := by
  have hturn : ∀ {a b : List Value}, (∀ item ∈ a, item.WellFormed) →
      (∀ item ∈ b, item.WellFormed) → meets a b = true → meets b a = true := by
    intro a b ha hb h
    obtain ⟨v, hv, hin⟩ := List.any_eq_true.mp h
    obtain ⟨w, hw, hsame⟩ := isIn_iff.mp hin
    exact List.any_eq_true.mpr ⟨w, hw, isIn_iff.mpr
      ⟨v, hv, partialEquivalence_same.symm (hb w hw) (ha v hv) hsame⟩⟩
  exact Bool.eq_iff_iff.mpr ⟨hturn ha hb, hturn hb ha⟩

theorem isSubset_trans (ha : ∀ item ∈ a, item.WellFormed) (hb : ∀ item ∈ b, item.WellFormed)
    (hc : ∀ item ∈ c, item.WellFormed) (hab : isSubset a b = true) (hbc : isSubset b c = true) :
    isSubset a c = true := by
  rw [isSubset, List.all_eq_true] at *
  intro v hv
  obtain ⟨w, hw, hsame⟩ := isIn_iff.mp (hab v hv)
  exact isIn_of_same hc (hb w hw) (ha v hv) hsame (hbc w hw)

/-! ### Parts of a list -/

/-- The last list is put together from the other two: each of its elements is one of either, in
order. -/
inductive Interleaved {α : Type} : List α → List α → List α → Prop
  | nil : Interleaved [] [] []
  | left (x : α) {xs ys zs : List α} : Interleaved xs ys zs → Interleaved (x :: xs) ys (x :: zs)
  | right (y : α) {xs ys zs : List α} : Interleaved xs ys zs → Interleaved xs (y :: ys) (y :: zs)

theorem interleaved_filter {α : Type} (test : α → Bool) (xs : List α) :
    Interleaved (xs.filter test) (xs.filter fun x => !test x) xs := by
  induction xs with
  | nil => exact .nil
  | cons x xs ih =>
    cases hx : test x
    · rw [List.filter_cons_of_neg (by simp [hx]), List.filter_cons_of_pos (by simp [hx])]
      exact .right x ih
    · rw [List.filter_cons_of_pos hx, List.filter_cons_of_neg (by simp [hx])]
      exact .left x ih

theorem inter_eq_nil_iff : inter a b = [] ↔ meets a b = false := by
  simp [inter, meets, List.filter_eq_nil_iff]

theorem diff_eq_nil_iff : diff a b = [] ↔ isSubset a b = true := by
  simp [diff, isSubset, List.filter_eq_nil_iff]

/-! ### First occurrences -/

theorem nub_append_singleton (items : List Value) (v : Value) :
    nub (items ++ [v]) = if isIn (nub items) v then nub items else nub items ++ [v] := by
  rw [nub, List.foldl_append]
  rfl

/-- Taking first occurrences only changes no membership: what is left out is the same as something
kept. -/
theorem isIn_nub {items : List Value} (h : ∀ item ∈ items, item.WellFormed) {v : Value}
    (hv : v.WellFormed) : isIn (nub items) v = isIn items v := by
  induction items using List.reverseRecOn with
  | nil => rfl
  | append_singleton items last ih =>
    obtain ⟨hitems, hlast⟩ := List.forall_mem_append.mp h
    rw [List.forall_mem_singleton] at hlast
    rw [nub_append_singleton, isIn_append, ← ih hitems]
    split
    · next hin =>
      have hkept : ∀ item ∈ nub items, item.WellFormed := fun item hi =>
        hitems item (mem_of_mem_nub hi)
      rw [isIn_singleton]
      cases hsame : same last v with
      | false => rw [Bool.or_false]
      | true => rw [Bool.or_true, isIn_of_same hkept hlast hv hsame hin]
    · rw [isIn_append]

/-- No first occurrence is the same as one before it. -/
theorem pairwise_nub (items : List Value) :
    (nub items).Pairwise fun v w => same v w = false := by
  induction items using List.reverseRecOn with
  | nil => exact .nil
  | append_singleton items last ih =>
    rw [nub_append_singleton]
    split
    · exact ih
    · next hin =>
      refine List.pairwise_append.mpr ⟨ih, List.pairwise_singleton _ _, fun v hv w hw => ?_⟩
      rw [List.mem_singleton.mp hw]
      exact Bool.eq_false_iff.mpr fun hsame => hin (isIn_iff.mpr ⟨v, hv, hsame⟩)

theorem nub_eq_self {items : List Value} (h : items.Pairwise fun v w => same v w = false) :
    nub items = items := by
  induction items using List.reverseRecOn with
  | nil => rfl
  | append_singleton items last ih =>
    obtain ⟨hitems, -, hlast⟩ := List.pairwise_append.mp h
    rw [nub_append_singleton, ih hitems, if_neg]
    intro hin
    obtain ⟨item, hi, hsame⟩ := isIn_iff.mp hin
    rw [hlast item hi last List.mem_cons_self] at hsame
    cases hsame

/-- **The first occurrences are the items that none before them is the same as.** -/
theorem nub_eq_filter {items : List Value} (h : ∀ item ∈ items, item.WellFormed) :
    nub items =
      (items.zipIdx.filter fun entry => !isIn (items.take entry.2) entry.1).map Prod.fst := by
  induction items using List.reverseRecOn with
  | nil => rfl
  | append_singleton items last ih =>
    obtain ⟨hitems, hlast⟩ := List.forall_mem_append.mp h
    rw [List.forall_mem_singleton] at hlast
    -- the items in front of the last one are preceded by the same items as before
    have hfront :
        items.zipIdx.filter (fun entry => !isIn ((items ++ [last]).take entry.2) entry.1) =
        items.zipIdx.filter fun entry => !isIn (items.take entry.2) entry.1 := by
      refine List.filter_congr fun entry he => ?_
      have hlt : entry.2 < items.length := List.snd_lt_of_mem_zipIdx he
      rw [List.take_append_of_le_length (Nat.le_of_lt hlt)]
    have hbefore : (items ++ [last]).take items.length = items := List.take_left
    rw [nub_append_singleton, List.zipIdx_append, List.filter_append, List.map_append, hfront,
      ← ih hitems, isIn_nub hitems hlast]
    cases hin : isIn items last <;> simp [hbefore, hin]

/-! ### Operators on two arrays -/

/-- Whether a builtin test holds of an array and another one as its argument. -/
def holds (functions : Functions) (name : String) (a b : List Value) : Prop :=
  (Registry.builtins functions).accepts (.array a) (.record [(name, .array b)]) = true

/-- What a builtin projection makes of an array with another one among its options. -/
def made? (functions : Functions) (name : String) (a b : List Value) : Option Value :=
  projected? functions a name (.record [("array", .array b)])

/-- What `$unique` makes of an array. -/
def firsts? (functions : Functions) (a : List Value) : Option Value :=
  projected? functions a "$unique" (.record [])

variable (functions : Functions)

theorem holds_iff {name : String} (test : List Value → List Value → Bool)
    (hname : Path.hasSigil name = true)
    (hp : (Registry.builtins functions).predicate? name = some (.ofArrays test))
    (a b : List Value) :
    holds functions name a b ↔ test a b = true := by
  rw [holds, Registry.accepts_of_predicate hname hp rfl]
  rfl

theorem holds_disjoint_iff (a b : List Value) :
    holds functions "$disjoint" a b ↔ meets a b = false := by
  rw [holds_iff functions (fun a b => !meets a b) rfl rfl, Bool.not_eq_true']

theorem holds_excludes_iff (a b : List Value) :
    holds functions "$excludes" a b ↔ meets b a = false := by
  rw [holds_iff functions (fun a b => !meets b a) rfl rfl, Bool.not_eq_true']

theorem holds_intersects_iff (a b : List Value) :
    holds functions "$intersects" a b ↔ meets a b = true :=
  holds_iff functions meets rfl rfl a b

theorem holds_subset_iff (a b : List Value) :
    holds functions "$subset" a b ↔ isSubset a b = true :=
  holds_iff functions isSubset rfl rfl a b

theorem holds_superset_iff {name : String} (h : name ∈ ["$superset", "$all", "$includes"])
    (a b : List Value) : holds functions name a b ↔ isSubset b a = true := by
  simp only [List.mem_cons, List.not_mem_nil, or_false] at h
  rcases h with rfl | rfl | rfl
  all_goals exact holds_iff functions (fun a b => isSubset b a) rfl rfl a b

theorem made?_intersection (a b : List Value) :
    made? functions "$intersection" a b = some (.array (inter a b)) :=
  projected?_ofTwoLists rfl rfl rfl a rfl

theorem made?_difference (a b : List Value) :
    made? functions "$difference" a b = some (.array (diff a b)) :=
  projected?_ofTwoLists rfl rfl rfl a rfl

theorem made?_union (a b : List Value) :
    made? functions "$union" a b = some (.array (nub (a ++ b))) :=
  projected?_ofTwoLists (f := fun a b => nub (a ++ b)) rfl rfl rfl a rfl

theorem firsts?_eq (a : List Value) : firsts? functions a = some (.array (nub a)) :=
  projected?_ofItems rfl rfl rfl rfl

theorem array_eq_nil_iff {items : List Value} :
    some (Value.array items) = some (.array []) ↔ items = [] := by
  rw [Option.some.injEq, Value.array.injEq]

/-- **The operators on arrays obey the laws of sets**, whatever the items are, though no two arrays
with a NaN in them are the same.  Intersection and difference put the array together again; disjoint
arrays are those without intersection; an array is a subset when it has no difference; inclusion is
transitive; a union has the members of both arrays and no two that are the same; and first
occurrences stand in their order. -/
theorem set_algebra {a b c : List Value} (ha : ∀ item ∈ a, item.WellFormed)
    (hb : ∀ item ∈ b, item.WellFormed) (hc : ∀ item ∈ c, item.WellFormed) :
    let holds := holds functions
    let made? := made? functions
    (∃ common rest : List Value, made? "$intersection" a b = some (.array common) ∧
      made? "$difference" a b = some (.array rest) ∧ Interleaved common rest a ∧
      (∀ item ∈ common, isIn b item = true) ∧ ∀ item ∈ rest, isIn b item = false) ∧
    (holds "$disjoint" a b ↔ made? "$intersection" a b = some (.array [])) ∧
    (holds "$disjoint" a b ↔ ¬holds "$intersects" a b) ∧
    (holds "$disjoint" a b ↔ holds "$excludes" a b) ∧
    (holds "$disjoint" a b ↔ holds "$disjoint" b a) ∧
    (made? "$intersection" a b = some (.array []) ↔ made? "$intersection" b a = some (.array [])) ∧
    (holds "$intersects" a b ↔ holds "$intersects" b a) ∧
    (holds "$excludes" a b ↔ holds "$excludes" b a) ∧
    (holds "$subset" a b ↔ made? "$difference" a b = some (.array [])) ∧
    (holds "$subset" a b ↔ holds "$superset" b a) ∧
    (holds "$subset" a b ↔ holds "$all" b a) ∧
    (holds "$subset" a b ↔ holds "$includes" b a) ∧
    (holds "$subset" a b → holds "$subset" b c → holds "$subset" a c) ∧
    (∃ union : List Value, made? "$union" a b = some (.array union) ∧
      (union.Pairwise fun v w => same v w = false ∧ same w v = false) ∧
      ∀ v : Value, v.WellFormed → (isIn union v = true ↔ isIn a v = true ∨ isIn b v = true)) ∧
    ∃ firsts : List Value, firsts? functions a = some (.array firsts) ∧
      firsts? functions firsts = some (.array firsts) ∧
      firsts = (a.zipIdx.filter fun entry => !isIn (a.take entry.2) entry.1).map Prod.fst := by
  intro holds made?
  have hboth : ∀ item ∈ a ++ b, item.WellFormed := List.forall_mem_append.mpr ⟨ha, hb⟩
  have hmeets : meets b a = meets a b := meets_comm hb ha
  have hdisjoint : ∀ a b, holds "$disjoint" a b ↔ meets a b = false := holds_disjoint_iff functions
  have hexcludes : ∀ a b, holds "$excludes" a b ↔ meets b a = false := holds_excludes_iff functions
  have hintersects : ∀ a b, holds "$intersects" a b ↔ meets a b = true :=
    holds_intersects_iff functions
  have hinter : ∀ a b, made? "$intersection" a b = some (.array []) ↔ meets a b = false :=
    fun a b => by rw [show made? "$intersection" a b = _ from made?_intersection functions a b,
      array_eq_nil_iff, inter_eq_nil_iff]
  have hdiff : made? "$difference" a b = some (.array []) ↔ isSubset a b = true := by
    rw [show made? "$difference" a b = _ from made?_difference functions a b, array_eq_nil_iff,
      diff_eq_nil_iff]
  have hsubset : ∀ a b, holds "$subset" a b ↔ isSubset a b = true := holds_subset_iff functions
  have hsuperset : ∀ {name}, name ∈ ["$superset", "$all", "$includes"] →
      (holds "$subset" a b ↔ holds name b a) := fun hname =>
    (hsubset a b).trans (holds_superset_iff functions hname b a).symm
  refine ⟨⟨inter a b, diff a b, made?_intersection functions a b, made?_difference functions a b,
    interleaved_filter _ a, fun item hi => (List.mem_filter.mp hi).2, fun item hi => ?_⟩,
    ?_, ?_, ?_, ?_, ?_, ?_, ?_, ?_, hsuperset (by decide), hsuperset (by decide),
    hsuperset (by decide), ?_, ⟨nub (a ++ b), made?_union functions a b, ?_, fun v hv => ?_⟩,
    nub a, firsts?_eq functions a, ?_, nub_eq_filter ha⟩
  · exact Bool.not_eq_true' _ ▸ (List.mem_filter.mp hi).2
  · rw [hdisjoint, hinter]
  · rw [hdisjoint, hintersects, Bool.not_eq_true]
  · rw [hdisjoint, hexcludes, hmeets]
  · rw [hdisjoint, hdisjoint, hmeets]
  · rw [hinter, hinter, hmeets]
  · rw [hintersects, hintersects, hmeets]
  · rw [hexcludes, hexcludes, hmeets]
  · rw [hsubset, hdiff]
  · rw [hsubset, hsubset, hsubset]
    exact isSubset_trans ha hb hc
  · refine (pairwise_nub (a ++ b)).imp_of_mem fun {v w} hv hw hsame => ⟨hsame, ?_⟩
    -- the comparison can be turned around
    refine Bool.eq_false_iff.mpr fun hturned => ?_
    rw [partialEquivalence_same.symm (hboth w (mem_of_mem_nub hw)) (hboth v (mem_of_mem_nub hv))
      hturned] at hsame
    cases hsame
  · rw [isIn_nub hboth hv, isIn_append, Bool.or_eq_true]
  · rw [firsts?_eq, nub_eq_self (pairwise_nub a)]

/-- A number that is NaN, records with their keys in another order, and arrays: inclusion is
inherited, though the last array, which holds an array with a NaN, is no subset of itself. -/
theorem set_algebra_mixed :
    let functions : Functions := fun _ _ => .undefined
    let nan : Value := .number Binary64.nan
    let small : List Value := [nan, .record [("x", .null), ("y", .bool true)]]
    let medium : List Value := [.record [("y", .bool true), ("x", .null)], nan, .array [.null]]
    let large : List Value := [.array [.null], nan, .array [nan],
      .record [("x", .null), ("y", .bool true)]]
    ((∀ item ∈ small, item.WellFormed) ∧ (∀ item ∈ medium, item.WellFormed) ∧
        ∀ item ∈ large, item.WellFormed) ∧
      holds functions "$subset" small medium ∧ holds functions "$subset" medium large ∧
      holds functions "$subset" small large ∧ holds functions "$includes" medium small ∧
      made? functions "$difference" small medium = some (.array []) ∧
      ¬holds functions "$subset" large large := by
  intro functions nan small medium large
  have hsmall : ∀ item ∈ small, item.WellFormed := by simp [small, nan, Assoc.keys]
  have hmedium : ∀ item ∈ medium, item.WellFormed := by simp [medium, nan, Assoc.keys]
  have hlarge : ∀ item ∈ large, item.WellFormed := by simp [large, nan, Assoc.keys]
  have hfirst : holds functions "$subset" small medium :=
    (holds_subset_iff functions small medium).mpr (by decide)
  have hsecond : holds functions "$subset" medium large :=
    (holds_subset_iff functions medium large).mpr (by decide)
  obtain ⟨-, -, -, -, -, -, -, -, hdifference, -, -, hincludes, htrans, -, -⟩ :=
    set_algebra functions hsmall hmedium hlarge
  refine ⟨⟨hsmall, hmedium, hlarge⟩, hfirst, hsecond, htrans hfirst hsecond, hincludes.mp hfirst,
    hdifference.mp hfirst, ?_⟩
  rw [holds_subset_iff]
  decide

end RecordQuery.Items

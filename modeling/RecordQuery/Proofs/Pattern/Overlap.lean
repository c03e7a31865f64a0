import RecordQuery.Proofs.Pattern.Builtins
import RecordQuery.Proofs.Pattern.Concatenation

/-!
# Patterns that overlap

The entries of a pattern are tested one by one as long as none of their leaves lies on the way to
another one; dotted keys with a common beginning may then be written in any way.  A literal that
lies on the way to another entry is not tested beside it.  Whichever of the two is merged last takes
the place of the other.

* `Registry.accepts_iff_forall_entry`: a pattern with separated leaves is the conjunction of its
  entries.
* `Pattern.expand_literal_above`, `Pattern.expand_literal_last`: a literal above an entry is lost,
  or the entry is.
-/

namespace RecordQuery

open RecordQuery.Path (hasSigil)

/-! ### Literals above entries -/

namespace Pattern

variable {literal : Value}

/-- What is merged in below a literal takes its place. -/
theorem mergeAt_below_literal (hr : literal.record? = none) (value : Value) {rest : List String}
    (hrest : rest ≠ []) : ∀ {path : List String}, path ≠ [] →
      mergeAt (mergeAt [] literal path) value (path ++ rest) = mergeAt [] value (path ++ rest) := by
  obtain ⟨next, rest, rfl⟩ := List.exists_cons_of_ne_nil hrest
  intro path
  induction path with
  | nil => intro h; exact absurd rfl h
  | cons key path ih =>
    intro _
    cases path with
    | nil =>
      have hinner : Entries.inner key [(key, literal)] = [] := by
        rw [Entries.inner, Assoc.get?_cons_self]
        cases literal with
        | record => cases hr
        | _ => rfl
      rw [mergeAt, mergeLeaf_nil, List.singleton_append, mergeAt_cons_cons,
        mergeAt_cons_cons, hinner]
      simp [Assoc.insert, Entries.inner]
    | cons second path =>
      have hbelow := ih (List.cons_ne_nil _ _)
      rw [List.cons_append] at hbelow
      rw [mergeAt_cons_cons, List.cons_append, List.cons_append, mergeAt_cons_cons,
        mergeAt_cons_cons, Assoc.insert_insert, inner_insert]
      exact congrArg (fun nested => Assoc.insert key (Value.record nested) []) hbelow

theorem mergeAt_literal_above (hr : literal.record? = none) (value : Value) (rest : List String) :
    ∀ {path : List String}, path ≠ [] → ∀ target : Entries,
      mergeAt (mergeAt target value (path ++ rest)) literal path = mergeAt target literal path := by
  intro path
  induction path with
  | nil => intro h; exact absurd rfl h
  | cons key path ih =>
    intro _ target
    cases path with
    | nil =>
      obtain ⟨merged, hmerged⟩ := exists_mergeAt_cons target value key rest
      rw [List.singleton_append, hmerged, mergeAt, mergeAt, mergeLeaf_of_literal hr,
        mergeLeaf_of_literal hr, Assoc.insert_insert]
    | cons second path =>
      have hbelow := ih (List.cons_ne_nil _ _) (Entries.inner key target)
      rw [List.cons_append] at hbelow
      rw [List.cons_append, List.cons_append, mergeAt_cons_cons, mergeAt_cons_cons, inner_insert,
        hbelow, mergeAt_cons_cons, Assoc.insert_insert]

section Pairs

variable {key other : String}

theorem expand_pair (h : key ≠ other) (first second : Value) :
    expand [(key, first), (other, second)] =
      mergeAt (mergeAt [] first (keyPath key)) second (keyPath other) :=
  expand_eq_mergeChains (by simpa using h)

/-- **A literal above the entry that follows is lost.** -/
theorem expand_literal_above (hr : literal.record? = none) {rest : List String} (hrest : rest ≠ [])
    (h : keyPath other = keyPath key ++ rest) (value : Value) :
    expand [(key, literal), (other, value)] = expand [(other, value)] := by
  have hne : key ≠ other := by
    rintro rfl
    exact hrest (List.self_eq_append_right.mp h)
  rw [expand_pair hne, expand_singleton_eq, h,
    mergeAt_below_literal hr value hrest (keyPath_ne_nil key)]

/-- **An entry below the literal that follows is lost.** -/
theorem expand_literal_last (hr : literal.record? = none) {rest : List String} (hrest : rest ≠ [])
    (h : keyPath other = keyPath key ++ rest) (value : Value) :
    expand [(other, value), (key, literal)] = expand [(key, literal)] := by
  have hne : other ≠ key := by
    rintro rfl
    exact hrest (List.self_eq_append_right.mp h)
  rw [expand_pair hne, expand_singleton_eq, h,
    mergeAt_literal_above hr value rest (keyPath_ne_nil key)]

end Pairs

end Pattern

/-! ### Separated entries -/

namespace Registry

open Pattern (leavesOf leavesUnder keyPath expand Placed Separated)

variable {registry : Registry}

theorem transformFreeLeaf_of_transformFreeAt (hreg : registry.Marked) : ∀ {entries : Entries},
    (∀ entry ∈ entries, keyPath entry.1 = [entry.1]) →
      (∀ entry ∈ entries, registry.TransformFreeAt entry.1 entry.2) →
        (∀ leaf ∈ leavesOf entries, Placed leaf) → Separated (leavesOf entries) →
          ∀ leaf ∈ leavesOf entries, registry.TransformFreeLeaf leaf := by
  intro entries
  induction entries using Pattern.induct with
  | nil => intro _ _ _ _ leaf hm; cases hm
  | cons key argument rest ihNested ihRest =>
    intro hkeys hfree hplaced hsep
    rw [List.forall_mem_cons] at hkeys hfree
    rw [leavesOf, List.forall_mem_append] at hplaced
    rw [leavesOf] at hsep
    rw [leavesOf, List.forall_mem_append]
    refine ⟨?_, ihRest hkeys.2 hfree.2 hplaced.2 hsep.right_of_append⟩
    rcases Pattern.leavesUnder_cases key argument with ⟨nested, rfl, -, hk, hl⟩ | ⟨-, hl⟩
    · -- a branch: the leaves of the expanded pattern below the key
      rw [hkeys.1] at hl
      rw [hl] at hplaced hsep ⊢
      have hbelow : ∀ leaf ∈ leavesOf nested, Placed leaf := fun leaf hm =>
        placed_under_cons (hplaced.1 _ (List.mem_map_of_mem hm))
          (Pattern.path_ne_nil_of_mem_leavesOf hm)
      have hapart : Separated (leavesOf nested) :=
        (Pattern.separated_map_under [key]).mp (hsep.sublist (List.sublist_append_left ..))
      have hperm := Pattern.perm_leavesOf_expand hbelow hapart
      have hnested : ∀ entry ∈ expand nested, registry.TransformFreeAt entry.1 entry.2 := by
        cases hfree.1 with
        | predicate hp => rw [(hreg key hk).1] at hp; cases hp
        | nested _ hall => exact hall
        | literal _ hr => cases hr
      have hleaves := ihNested nested rfl (fun entry => Pattern.keyPath_of_mem_expand) hnested
        (fun leaf hm => hbelow leaf (hperm.mem_iff.mp hm)) (hapart.perm hperm.symm)
      rw [List.forall_mem_map]
      exact fun leaf hm =>
        (transformFreeLeaf_under_iff (Pattern.path_ne_nil_of_mem_leavesOf hm)).mpr
          (hleaves leaf (hperm.mem_iff.mpr hm))
    · -- a leaf
      rw [hl, hkeys.1, List.forall_mem_singleton]
      intro last hlast
      obtain rfl : key = last := Option.some.inj hlast
      exact hfree.1

theorem leaves_of_transformFree (hreg : registry.Marked) {entries : Entries}
    (hfree : registry.TransformFree (.record entries))
    (hplaced : ∀ leaf ∈ leavesOf entries, Placed leaf) (hsep : Separated (leavesOf entries)) :
    ∀ leaf ∈ leavesOf entries, Placed leaf ∧ registry.TransformFreeLeaf leaf := by
  have hperm := Pattern.perm_leavesOf_expand hplaced hsep
  have hexpanded := transformFreeLeaf_of_transformFreeAt hreg
    (fun entry => Pattern.keyPath_of_mem_expand) (hfree entries rfl)
    (fun leaf hm => hplaced leaf (hperm.mem_iff.mp hm)) (hsep.perm hperm.symm)
  exact fun leaf hm => ⟨hplaced leaf hm, hexpanded leaf (hperm.mem_iff.mpr hm)⟩

/-- **A pattern without transforms is the conjunction of its entries**, unless one of its leaves
lies on the way to another one. -/
theorem accepts_iff_forall_entry (hreg : registry.Marked) {entries : Entries}
    (hfree : registry.TransformFree (.record entries))
    (hplaced : ∀ leaf ∈ leavesOf entries, Placed leaf) (hsep : Separated (leavesOf entries))
    (data : Value) :
    registry.accepts data (.record entries) = true ↔
      ∀ entry ∈ entries, registry.accepts data (.record [entry]) = true := by
  have hleaves := leaves_of_transformFree hreg hfree hplaced hsep
  have hentry : ∀ entry ∈ entries, (registry.accepts data (.record [entry]) = true ↔
      ∀ leaf ∈ leavesUnder entry.1 entry.2, registry.HoldsAt data none leaf.path leaf.value) := by
    intro entry he
    have hsub := Pattern.sublist_leavesOf_of_mem he
    have hsingle : leavesOf [entry] = leavesUnder entry.1 entry.2 := by
      rw [Pattern.leavesOf_cons, leavesOf, List.append_nil]
    rw [← hsingle] at hsub ⊢
    exact accepts_iff_holdsAt_of_transformFreeLeaf hreg
      (fun leaf hm => hleaves leaf (hsub.subset hm)) (hsep.sublist hsub) data
  rw [accepts_iff_holdsAt_of_transformFreeLeaf hreg hleaves hsep]
  constructor
  · intro h entry he
    exact (hentry entry he).mpr fun leaf hm => h leaf (Pattern.mem_leavesOf.mpr ⟨entry, he, hm⟩)
  · intro h leaf hm
    obtain ⟨entry, he, hl⟩ := Pattern.mem_leavesOf.mp hm
    exact (hentry entry he).mp (h entry he) leaf hl

/-- Two keys with a common beginning. -/
theorem accepts_iff_forall_entry_shared :
    let registry : Registry := ⟨[("$any", ⟨.flagOnly, fun _ _ _ => true⟩)], []⟩
    let data : Value := .record [("a", .record [("b", .null), ("c", .string "x")])]
    let entries : Entries :=
      [("a.b", .record [("$any", .null)]), ("a", .record [("c", .string "x")])]
    registry.TransformFree (.record entries) ∧ registry.accepts data (.record entries) = true := by
  intro registry data entries
  have hreg : registry.Marked := by
    intro key hk
    refine ⟨?_, rfl⟩
    rw [predicate?, Assoc.get?_eq_none_iff]
    intro hm
    obtain rfl := List.mem_singleton.mp hm
    cases hk
  have hexpand : expand entries =
      [("a", .record [("b", .record [("$any", .null)]), ("c", .string "x")])] := by rfl
  have hboth : expand [("b", .record [("$any", .null)]), ("c", .string "x")] =
      [("b", .record [("$any", .null)]), ("c", .string "x")] := by rfl
  have hany : expand [("$any", .null)] = [("$any", .null)] := by rfl
  have hfree : registry.TransformFree (.record entries) := by
    rintro _ ⟨⟩
    rw [hexpand, List.forall_mem_singleton]
    refine .nested rfl ?_
    rw [hboth, List.forall_mem_cons, List.forall_mem_singleton]
    refine ⟨.nested rfl ?_, .literal rfl rfl⟩
    rw [hany, List.forall_mem_singleton]
    exact .predicate rfl
  have hleaves : leavesOf entries =
      [⟨["a", "b", "$any"], .null⟩, ⟨["a", "c"], .string "x"⟩] := by rfl
  have hplaced : ∀ leaf ∈ leavesOf entries, Placed leaf := by
    rw [hleaves, List.forall_mem_cons, List.forall_mem_singleton]
    exact ⟨by decide, by decide⟩
  have hsep : Separated (leavesOf entries) := by
    rw [hleaves, Separated, List.pairwise_pair]
    exact ⟨by decide, by decide⟩
  refine ⟨hfree, (accepts_iff_forall_entry hreg hfree hplaced hsep data).mpr ?_⟩
  rw [List.forall_mem_cons, List.forall_mem_singleton]
  have hdotted : expand [("a.b", .record [("$any", .null)])] =
      [("a", .record [("b", .record [("$any", .null)])])] := by rfl
  have hb : expand [("b", .record [("$any", .null)])] = [("b", .record [("$any", .null)])] := by rfl
  have ha : expand [("a", .record [("c", .string "x")])] =
      [("a", .record [("c", .string "x")])] := by
    rfl
  have hc : expand [("c", .string "x")] = [("c", .string "x")] := by rfl
  constructor
  · rw [accepts_record, hdotted]
    simp [run_cons, step, predicate?, transform?, registry, Assoc.get?, hb, hany,
      Predicate.ignores]
  · have heq : ((data.field "a").field "c" == .string "x") = true := by rfl
    rw [accepts_record, ha, run_cons, step_of_record rfl rfl, hc, run_cons,
      step_of_literal rfl rfl rfl, if_pos heq]
    simp

/-- **Of a literal and an entry below it the one that is written last counts**, whatever the other
one asks for. -/
theorem accepts_literal_above {literal : Value} (hr : literal.record? = none) {key other : String}
    {rest : List String} (hrest : rest ≠ []) (h : keyPath other = keyPath key ++ rest)
    (value data : Value) :
    registry.accepts data (.record [(key, literal), (other, value)]) =
        registry.accepts data (.record [(other, value)]) ∧
      registry.accepts data (.record [(other, value), (key, literal)]) =
        registry.accepts data (.record [(key, literal)]) := by
  rw [accepts_record, accepts_record, accepts_record, accepts_record]
  exact ⟨by rw [Pattern.expand_literal_above hr hrest h],
    by rw [Pattern.expand_literal_last hr hrest h]⟩

/-- A field that is accepted although it is not equal to the literal. -/
theorem accepts_overlapping :
    let registry := builtins fun _ _ => .undefined
    let data : Value := .record [("a", .record [("b", .null)])]
    let entries : Entries := [("a", .string "x"), ("a.b", .null)]
    registry.TransformFree (.record entries) ∧
      ¬ (registry.accepts data (.record entries) = true ↔
        ∀ entry ∈ entries, registry.accepts data (.record [entry]) = true) := by
  intro registry data entries
  have hreg := marked_builtins fun _ _ => .undefined
  obtain ⟨ha, ha'⟩ := hreg "a" rfl
  obtain ⟨hb, hb'⟩ := hreg "b" rfl
  have hexpand : expand entries = [("a", .record [("b", .null)])] := by rfl
  have hnested : expand [("b", .null)] = [("b", .null)] := by rfl
  have hdotted : expand [("a.b", .null)] = [("a", .record [("b", .null)])] := by rfl
  have hfree : registry.TransformFree (.record entries) := by
    rintro _ ⟨⟩
    rw [hexpand, List.forall_mem_singleton]
    refine .nested ha' ?_
    rw [hnested, List.forall_mem_singleton]
    exact .literal hb' rfl
  refine ⟨hfree, fun h => ?_⟩
  have hboth : registry.accepts data (.record entries) = true := by
    rw [accepts_iff_satisfied hfree, Satisfied, hexpand, List.forall_mem_singleton]
    refine .nested ha ha' ?_
    rw [hnested, List.forall_mem_singleton]
    exact .literal hb hb' rfl rfl
  have hfirst := (h.mp hboth) ("a", .string "x") List.mem_cons_self
  have hplain : expand [("a", .string "x")] = [("a", .string "x")] := by rfl
  rw [accepts_record, hplain, run_cons, step_of_literal ha ha' rfl] at hfirst
  cases hfirst

end Registry

end RecordQuery

import RecordQuery.Proofs.Pattern.Leaves
import RecordQuery.Proofs.Pattern.Step

/-!
# One pattern after another

The entries of a pattern are taken in order, and all that one entry hands on to the next is the
subject.  Two patterns that speak of different fields can therefore be written as one: evaluating
them together is evaluating the first and then, on its value, the second.

* `Pattern.Unrelated`: no operator stands in both patterns, and no field is spoken of by both.
* `Pattern.expand_append`: the dotted keys of unrelated patterns are written out apart.
* `Registry.run_append`: a run of one list of entries behind another.
* `Registry.evaluate?_append`: unrelated patterns written as one.
-/

namespace RecordQuery

open RecordQuery.Path (hasSigil)

/-! ### Dotted keys -/

namespace Pattern

/-- No operator stands in both patterns, and no fields of them begin with the same segment. -/
structure Unrelated (first second : Entries) : Prop where
  operators : ∀ key ∈ Assoc.keys first, hasSigil key = true → key ∉ Assoc.keys second
  fields : ∀ key ∈ Assoc.keys first, ∀ other ∈ Assoc.keys second, hasSigil key = false →
    hasSigil other = false → (Path.segments key).head? ≠ (Path.segments other).head?

theorem isPrefix_of_head?_splitOn {α : Type} {isMark : α → Bool} : ∀ {xs part : List α},
    (Text.splitOn isMark xs).head? = some part → part <+: xs := by
  intro xs
  induction xs with
  | nil =>
    intro part h
    rw [Text.splitOn, List.head?_cons, Option.some.injEq] at h
    exact h ▸ List.prefix_refl _
  | cons x xs ih =>
    intro part h
    obtain ⟨head, tail, hs⟩ := List.exists_cons_of_ne_nil (splitOn_ne_nil isMark xs)
    rw [hs] at ih
    rw [Text.splitOn, hs] at h
    dsimp only at h
    split at h
    · rw [List.head?_cons, Option.some.injEq] at h
      exact h ▸ List.nil_prefix
    · rw [List.head?_cons, Option.some.injEq] at h
      exact h ▸ List.cons_prefix_cons.mpr ⟨rfl, ih rfl⟩

theorem hasSigil_of_head?_segments {key segment : String}
    (h : (Path.segments key).head? = some segment) (hs : hasSigil segment = true) :
    hasSigil key = true := by
  rw [Path.segments, List.head?_map, Option.map_eq_some_iff] at h
  obtain ⟨part, hpart, rfl⟩ := h
  rw [hasSigil, String.toList_ofList, beq_iff_eq] at hs
  obtain ⟨rest, hrest⟩ := isPrefix_of_head?_splitOn hpart
  rw [hasSigil, beq_iff_eq, ← hrest, List.head?_append, hs, Option.some_or]

theorem Unrelated.head?_keyPath_ne {first second : Entries} (h : Unrelated first second)
    {key other : String} (hk : key ∈ Assoc.keys first) (ho : other ∈ Assoc.keys second) :
    (keyPath key).head? ≠ (keyPath other).head? := by
  intro heq
  cases hs : hasSigil key with
  | true =>
    rw [keyPath_of_hasSigil hs, List.head?_cons] at heq
    cases hso : hasSigil other with
    | true =>
      rw [keyPath_of_hasSigil hso, List.head?_cons, Option.some.injEq] at heq
      exact h.operators key hk hs (heq ▸ ho)
    | false =>
      rw [keyPath, hso] at heq
      have hsigil := hasSigil_of_head?_segments heq.symm hs
      rw [hso] at hsigil
      cases hsigil
  | false =>
    cases hso : hasSigil other with
    | true =>
      rw [keyPath_of_hasSigil hso, List.head?_cons, keyPath, hs] at heq
      have hsigil := hasSigil_of_head?_segments heq hso
      rw [hs] at hsigil
      cases hsigil
    | false =>
      rw [keyPath, hs, keyPath, hso] at heq
      exact h.fields key hk other ho hs hso heq

theorem mergeLeaf_append {target : Entries} {key : String} (h : key ∉ Assoc.keys target)
    (other : Entries) (value : Value) :
    mergeLeaf (target ++ other) key value = target ++ mergeLeaf other key value := by
  cases hr : value.record? with
  | none =>
    rw [mergeLeaf_of_literal hr, mergeLeaf_of_literal hr, Assoc.insert_append_of_not_mem h]
  | some incoming =>
    obtain rfl := Value.record?_eq_some_iff.mp hr
    rw [mergeLeaf, mergeLeaf, Assoc.get?_append_of_not_mem h]
    split <;> exact Assoc.insert_append_of_not_mem h _ _

theorem mergeLeaf_nil (key : String) (value : Value) : mergeLeaf [] key value = [(key, value)] := by
  cases hr : value.record? with
  | none => rw [mergeLeaf_of_literal hr]; rfl
  | some incoming =>
    obtain rfl := Value.record?_eq_some_iff.mp hr
    rfl

theorem mergeAt_append {target : Entries} {path : List String}
    (h : ∀ key ∈ path.head?, key ∉ Assoc.keys target) (other : Entries) (value : Value) :
    mergeAt (target ++ other) value path = target ++ mergeAt other value path := by
  match path with
  | [] => rfl
  | [key] => exact mergeLeaf_append (h key rfl) other value
  | key :: next :: path =>
    have hkey := h key rfl
    have hinner : Entries.inner key (target ++ other) = Entries.inner key other := by
      rw [Entries.inner, Assoc.get?_append_of_not_mem hkey, Entries.inner]
    rw [mergeAt_cons_cons, mergeAt_cons_cons, hinner, Assoc.insert_append_of_not_mem hkey]

/-- **Merging leaves entries alone that the pattern does not speak of.** -/
theorem mergeChains_append_of_not_mem {target : Entries} : ∀ {pattern : Entries},
    (∀ entry ∈ pattern, ∀ key ∈ (keyPath entry.1).head?, key ∉ Assoc.keys target) →
      ∀ other, mergeChains (target ++ other) pattern = target ++ mergeChains other pattern := by
  intro pattern
  induction pattern with
  | nil => intro _ other; rfl
  | cons entry rest ih =>
    intro h other
    rw [List.forall_mem_cons] at h
    rw [mergeChains, mergeAt_append h.1, ih h.2, mergeChains]

theorem mergeChains_append (target first second : Entries) :
    mergeChains target (first ++ second) = mergeChains (mergeChains target first) second := by
  induction first generalizing target with
  | nil => rfl
  | cons entry rest ih => rw [List.cons_append, mergeChains, ih, mergeChains]

theorem mergeChains_of_nodup : ∀ {pattern target : Entries},
    (∀ entry ∈ pattern, isChain entry.1 = false) → (Assoc.keys (target ++ pattern)).Nodup →
      mergeChains target pattern = target ++ pattern := by
  intro pattern
  induction pattern with
  | nil => intro target _ _; rw [mergeChains, List.append_nil]
  | cons entry rest ih =>
    intro target hplain hd
    obtain ⟨key, value⟩ := entry
    rw [List.forall_mem_cons] at hplain
    have hnew : key ∉ Assoc.keys target := by
      rw [Assoc.keys_append, Assoc.keys_cons] at hd
      exact fun hm => (List.nodup_append.mp hd).2.2 _ hm _ List.mem_cons_self rfl
    have hmerge := mergeLeaf_append hnew [] value
    rw [List.append_nil, mergeLeaf_nil] at hmerge
    rw [mergeChains, keyPath_of_isChain_eq_false hplain.1, mergeAt, hmerge, ih hplain.2,
      List.append_assoc, List.singleton_append]
    rwa [List.append_assoc, List.singleton_append]

/-- Writing dotted keys out is merging, also where there are none. -/
theorem expand_eq_mergeChains {pattern : Entries} (h : (Assoc.keys pattern).Nodup) :
    expand pattern = mergeChains [] pattern := by
  by_cases hplain : ∀ entry ∈ pattern, isChain entry.1 = false
  · have hmerge : mergeChains [] pattern = [] ++ pattern := mergeChains_of_nodup hplain h
    rw [expand_of_isChain_eq_false hplain, hmerge, List.nil_append]
  · have hchain : (pattern.any fun entry => isChain entry.1) = true := by
      simpa using hplain
    rw [expand, if_pos hchain]

theorem expand_singleton_eq (key : String) (value : Value) :
    expand [(key, value)] = mergeAt [] value (keyPath key) :=
  expand_eq_mergeChains (List.pairwise_singleton ..)

theorem mergeAt_nil_cons_cons (value : Value) (key next : String) (path : List String) :
    mergeAt [] value (key :: next :: path) =
      [(key, .record (mergeAt [] value (next :: path)))] := rfl

theorem expand_mergeAt_nil (value : Value) {path : List String} (hpath : path ≠ [])
    (hsingle : ∀ segment ∈ path, keyPath segment = [segment]) :
    expand (mergeAt [] value path) = mergeAt [] value path := by
  obtain ⟨key, rest, rfl⟩ := List.exists_cons_of_ne_nil hpath
  obtain ⟨below, hbelow⟩ := exists_mergeAt_cons [] value key rest
  rw [hbelow, Assoc.insert, expand_singleton_eq, hsingle key List.mem_cons_self, mergeAt,
    mergeLeaf_nil]

theorem nodup_keys_append {first second : Entries} (h : Unrelated first second)
    (hfirst : (Assoc.keys first).Nodup) (hsecond : (Assoc.keys second).Nodup) :
    (Assoc.keys (first ++ second)).Nodup := by
  rw [Assoc.keys_append, List.nodup_append]
  refine ⟨hfirst, hsecond, fun key hk other ho heq => ?_⟩
  exact h.head?_keyPath_ne hk ho (congrArg (fun name => (keyPath name).head?) heq)

/-- **The dotted keys of unrelated patterns are written out apart.** -/
theorem expand_append {first second : Entries} (h : Unrelated first second)
    (hfirst : (Assoc.keys first).Nodup) (hsecond : (Assoc.keys second).Nodup) :
    expand (first ++ second) = expand first ++ expand second := by
  have hapart : ∀ entry ∈ second, ∀ key ∈ (keyPath entry.1).head?,
      key ∉ Assoc.keys (mergeChains [] first) := by
    intro entry he key hkey hm
    obtain ⟨merged, hmerged, rfl⟩ := List.mem_map.mp hm
    rcases key_of_mem_mergeChains hmerged with ⟨origin, ho, hhead⟩ | hnil
    · exact h.head?_keyPath_ne (List.mem_map_of_mem ho) (List.mem_map_of_mem he)
        (hhead.trans (Option.mem_def.mp hkey).symm)
    · cases hnil
  have happend := mergeChains_append_of_not_mem hapart []
  rw [List.append_nil] at happend
  rw [expand_eq_mergeChains (nodup_keys_append h hfirst hsecond), expand_eq_mergeChains hfirst,
    expand_eq_mergeChains hsecond, mergeChains_append, happend]

end Pattern

/-! ### Runs -/

namespace Outcome

theorem followedBy_assoc (first second third : Outcome) :
    (first.followedBy second).followedBy third = first.followedBy (second.followedBy third) := by
  simp only [followedBy, List.append_assoc]

end Outcome

namespace Registry

variable (registry : Registry)

/-- **A run of entries behind others starts from the subject that those leave.** -/
theorem run_append (scope : Option Scope) (second : Entries) : ∀ (first : Entries)
    (subject : Value), registry.run subject scope (first ++ second) =
      (registry.run subject scope first).bind fun outcome =>
        (registry.run outcome.value scope second).map outcome.followedBy := by
  intro first
  induction first with
  | nil =>
    intro subject
    have hid : (Outcome.unchanged subject).followedBy = id := rfl
    rw [List.nil_append, run_nil, Option.bind_some, hid, Option.map_id, id,
      Outcome.unchanged_value]
  | cons entry rest ih =>
    intro subject
    obtain ⟨key, argument⟩ := entry
    rw [List.cons_append, run_cons, run_cons, Option.bind_assoc]
    refine Option.bind_congr fun outcome _ => ?_
    rw [ih, Option.bind_map, Option.map_bind]
    refine Option.bind_congr fun next _ => ?_
    show Option.map outcome.followedBy (Option.map next.followedBy _) =
      Option.map (outcome.followedBy next).followedBy _
    rw [Option.map_map, Outcome.followedBy_value]
    have hassoc : outcome.followedBy ∘ next.followedBy = (outcome.followedBy next).followedBy :=
      funext fun last => (Outcome.followedBy_assoc outcome next last).symm
    rw [hassoc]

variable {registry}

/-- **Unrelated patterns written as one are evaluated one after the other.**  The evaluation
succeeds when that of the first pattern does and, on the value of that, the evaluation of the second
one; the value is the last one, and the edits of the second follow those of the first. -/
theorem evaluate?_append {first second : Entries} (hfirst : (Assoc.keys first).Nodup)
    (hsecond : (Assoc.keys second).Nodup) (h : Pattern.Unrelated first second) (data : Value) :
    registry.evaluate? data (.record (first ++ second)) =
      (registry.evaluate? data (.record first)).bind fun found =>
        (registry.evaluate? found.value (.record second)).map fun last =>
          { value := last.value, edits := found.edits ++ last.edits } := by
  rw [evaluate?_record, Pattern.expand_append h hfirst hsecond, run_append, evaluate?_record,
    Option.map_bind, Option.bind_map]
  refine Option.bind_congr fun outcome _ => ?_
  dsimp only [Function.comp]
  rw [evaluate?_record, Option.map_map, Option.map_map]
  rfl

/-- A root that is replaced, and a nested write to what has taken its place. -/
theorem evaluate?_append_replaced :
    let registry : Registry := ⟨[("$any", ⟨.flagOnly, fun _ _ _ => true⟩)],
      [("$put", ⟨fun _ options _ => .value options⟩)]⟩
    let fresh : Value := .record [("a", .record [("b", .null)])]
    let first : Entries := [("$put", fresh)]
    let second : Entries := [("a.b", .record [("$put", .string "x")]), ("$any", .null)]
    Pattern.Unrelated first second ∧
      registry.evaluate? .null (.record (first ++ second)) =
        some { value := .record [("a", .record [("b", .string "x")])]
               edits := [⟨[], .set fresh⟩, ⟨["a", "b"], .set (.string "x")⟩] } := by
  intro registry fresh first second
  have hun : Pattern.Unrelated first second := { operators := by decide, fields := by decide }
  have hplain : Pattern.isChain "$put" = false := by decide
  have hput : ∀ options, Pattern.expand [("$put", options)] = [("$put", options)] :=
    Pattern.expand_singleton hplain
  have hfirst : registry.evaluate? .null (.record first) = some ⟨fresh, [⟨[], .set fresh⟩]⟩ := by
    rw [evaluate?_record, hput]
    simp [run_cons, step, predicate?, transform?, registry, Assoc.get?, fresh, Projection.effect,
      Projection.atRoot, Outcome.followedBy]
  have hsecond : registry.evaluate? fresh (.record second) =
      some ⟨.record [("a", .record [("b", .string "x")])], [⟨["a", "b"], .set (.string "x")⟩]⟩ := by
    have hdotted : Pattern.expand second =
        [("a", .record [("b", .record [("$put", .string "x")])]), ("$any", .null)] := by rfl
    have hnested : Pattern.expand [("b", .record [("$put", .string "x")])] =
        [("b", .record [("$put", .string "x")])] := by rfl
    rw [evaluate?_record, hdotted]
    simp [run_cons, step, predicate?, transform?, registry, Assoc.get?, hnested, hput,
      Projection.effect, Projection.inField, Outcome.followedBy, Outcome.absorb]
    constructor <;> rfl
  refine ⟨hun, ?_⟩
  rw [evaluate?_append (by decide) (by decide) hun, hfirst, Option.bind_some, hsecond]
  rfl

end Registry

end RecordQuery

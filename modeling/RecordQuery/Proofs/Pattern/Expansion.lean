import RecordQuery.Proofs.Pattern.Concatenation

/-!
# Dotted keys written out

Writing the dotted keys of a pattern out leaves none to write out, so that a second time changes
nothing, and a pattern is evaluated as it is when its keys are written out already.  Every value can
then be found by following its key, as long as it is not in the way of another one: what is merged
in at a path does not touch what lies at the end of a path that branches off.

* `Entries.at?`: the value at the end of a path through records.
* `Pattern.at?_mergeAt`, `Pattern.at?_mergeAt_of_branches`: lookup at the path of a merge and at
  others.
* `Pattern.at?_mergeChains`: a value is found at the end of its key.
* `Pattern.Branching`: no field of a pattern lies on the way to another one.
* `Pattern.expand_faithful`: what writing dotted keys out keeps.
-/

namespace RecordQuery

open RecordQuery.Path (hasSigil)

/-- The value at the end of a path whose inner segments lead through records. -/
def Entries.at? : List String → Entries → Option Value
  | [], _ => none
  | [key], entries => Assoc.get? key entries
  | key :: path, entries => Entries.at? path (Entries.inner key entries)

namespace Pattern

/-! ### Lookup along a path -/

theorem at?_cons_cons (key next : String) (path : List String) (entries : Entries) :
    Entries.at? (key :: next :: path) entries =
      Entries.at? (next :: path) (Entries.inner key entries) := rfl

@[simp] theorem at?_empty : ∀ path : List String, Entries.at? path [] = none := by
  intro path
  induction path with
  | nil => rfl
  | cons key path ih =>
    cases path with
    | nil => rfl
    | cons next path => exact ih

theorem follow?_of_at? {value : Value} : ∀ {path : List String} {entries : Entries},
    Entries.at? path entries = some value → Value.follow? path (.record entries) = some value := by
  intro path
  induction path with
  | nil => intro entries h; cases h
  | cons key path ih =>
    intro entries h
    cases path with
    | nil =>
      have hget : (Value.record entries).get? key = some value := h
      rw [Value.follow?, hget]
      rfl
    | cons next path =>
      rw [at?_cons_cons, Entries.inner] at h
      split at h
      · next nested hget =>
        have hrecord : (Value.record entries).get? key = some (.record nested) := hget
        rw [Value.follow?, hrecord]
        exact ih h
      · rw [at?_empty] at h
        cases h

/-! ### Merging -/

/-- What is merged in where nothing is stands there afterwards. -/
theorem at?_mergeAt (value : Value) : ∀ {path : List String} {target : Entries}, path ≠ [] →
    Entries.at? path target = none → Entries.at? path (mergeAt target value path) = some value := by
  intro path
  induction path with
  | nil => intro target h; exact absurd rfl h
  | cons key path ih =>
    intro target _ hnone
    cases path with
    | nil =>
      have hkey : key ∉ Assoc.keys target := Assoc.get?_eq_none_iff.mp hnone
      have hmerge := mergeLeaf_append hkey [] value
      rw [List.append_nil, mergeLeaf_nil] at hmerge
      rw [Entries.at?, mergeAt, hmerge, Assoc.get?_append_of_not_mem hkey, Assoc.get?_cons_self]
    | cons next path =>
      rw [mergeAt_cons_cons, at?_cons_cons, inner_insert]
      exact ih (List.cons_ne_nil _ _) hnone

/-- Neither path is the beginning of the other. -/
def Branches (first second : List String) : Prop := ¬ first <+: second ∧ ¬ second <+: first

theorem Branches.symm {first second : List String} (h : Branches first second) :
    Branches second first := ⟨h.2, h.1⟩

theorem Branches.tail {key : String} {first second : List String}
    (h : Branches (key :: first) (key :: second)) : Branches first second :=
  ⟨fun hp => h.1 (List.cons_prefix_cons.mpr ⟨rfl, hp⟩),
    fun hp => h.2 (List.cons_prefix_cons.mpr ⟨rfl, hp⟩)⟩

theorem branches_of_head?_ne {first second : List String} (hfirst : first ≠ [])
    (hsecond : second ≠ []) (h : first.head? ≠ second.head?) : Branches first second := by
  obtain ⟨key, first, rfl⟩ := List.exists_cons_of_ne_nil hfirst
  obtain ⟨other, second, rfl⟩ := List.exists_cons_of_ne_nil hsecond
  rw [List.head?_cons, List.head?_cons, ne_eq, Option.some.injEq] at h
  exact ⟨fun hp => h (List.cons_prefix_cons.mp hp).1,
    fun hp => h (List.cons_prefix_cons.mp hp).1.symm⟩

/-- **A merge does not touch what lies at the end of another path**, where the two branch. -/
theorem at?_mergeAt_of_branches (value : Value) : ∀ {path other : List String} {target : Entries},
    Branches path other →
      Entries.at? other (mergeAt target value path) = Entries.at? other target := by
  intro path
  induction path with
  | nil => intro other target h; exact absurd List.nil_prefix h.1
  | cons key path ih =>
    intro other target h
    cases other with
    | nil => exact absurd List.nil_prefix h.2
    | cons first other =>
      obtain ⟨merged, hmerged⟩ := exists_mergeAt_cons target value key path
      by_cases hkey : key = first
      · subst hkey
        have htail := h.tail
        -- both paths go on below the segment that they share
        cases path with
        | nil => exact absurd List.nil_prefix htail.1
        | cons next path =>
          cases other with
          | nil => exact absurd List.nil_prefix htail.2
          | cons second other =>
            rw [mergeAt_cons_cons, at?_cons_cons, at?_cons_cons, inner_insert]
            exact ih htail
      · have hsame : Assoc.get? first (mergeAt target value (key :: path)) =
            Assoc.get? first target := by rw [hmerged, Assoc.get?_insert_of_ne hkey]
        cases other with
        | nil => exact hsame
        | cons second other =>
          rw [at?_cons_cons, at?_cons_cons, Entries.inner, hsame, Entries.inner]

theorem at?_mergeChains_of_branches {path : List String} : ∀ {pattern target : Entries},
    (∀ entry ∈ pattern, Branches (keyPath entry.1) path) →
      Entries.at? path (mergeChains target pattern) = Entries.at? path target := by
  intro pattern
  induction pattern with
  | nil => intro target _; rfl
  | cons entry rest ih =>
    intro target h
    rw [List.forall_mem_cons] at h
    rw [mergeChains, ih h.2, at?_mergeAt_of_branches entry.2 h.1]

/-- **A value is found at the end of its key**, if the other keys branch off from it. -/
theorem at?_mergeChains {pattern : Entries} (hd : (Assoc.keys pattern).Nodup)
    {entry : String × Value} (he : entry ∈ pattern)
    (h : ∀ key ∈ Assoc.keys pattern, key ≠ entry.1 → Branches (keyPath key) (keyPath entry.1)) :
    Entries.at? (keyPath entry.1) (mergeChains [] pattern) = some entry.2 := by
  obtain ⟨before, after, rfl⟩ := List.append_of_mem he
  rw [Assoc.keys_append, Assoc.keys_cons] at hd h
  have hbefore : ∀ other ∈ before, Branches (keyPath other.1) (keyPath entry.1) := by
    intro other ho
    have hkey : other.1 ∈ Assoc.keys before := List.mem_map_of_mem ho
    exact h other.1 (List.mem_append_left _ hkey)
      ((List.nodup_append.mp hd).2.2 _ hkey _ List.mem_cons_self)
  have hafter : ∀ other ∈ after, Branches (keyPath other.1) (keyPath entry.1) := by
    intro other ho
    have hkey : other.1 ∈ Assoc.keys after := List.mem_map_of_mem ho
    refine h other.1 (List.mem_append_right _ (List.mem_cons_of_mem _ hkey)) fun heq => ?_
    exact (List.nodup_cons.mp (List.nodup_append.mp hd).2.1).1 (heq ▸ hkey)
  have hnone : Entries.at? (keyPath entry.1) (mergeChains [] before) = none := by
    rw [at?_mergeChains_of_branches hbefore, at?_empty]
  rw [mergeChains_append, mergeChains, at?_mergeChains_of_branches hafter,
    at?_mergeAt entry.2 (keyPath_ne_nil entry.1) hnone]

/-! ### Keys -/

/-- No field lies on the way to another field. -/
def Branching (pattern : Entries) : Prop :=
  ∀ key ∈ Assoc.keys pattern, ∀ other ∈ Assoc.keys pattern, hasSigil key = false →
    hasSigil other = false → key ≠ other → ¬ Path.segments key <+: Path.segments other

instance (pattern : Entries) : Decidable (Branching pattern) :=
  inferInstanceAs (Decidable (∀ key ∈ Assoc.keys pattern, ∀ other ∈ Assoc.keys pattern, _))

theorem keyPath_of_hasSigil_eq_false {key : String} (h : hasSigil key = false) :
    keyPath key = Path.segments key := by
  rw [keyPath, h]
  rfl

theorem head?_keyPath_ne {key other : String} (h : hasSigil key = true) (hne : other ≠ key) :
    (keyPath other).head? ≠ some key := by
  intro hhead
  cases ho : hasSigil other with
  | true =>
    rw [keyPath_of_hasSigil ho, List.head?_cons, Option.some.injEq] at hhead
    exact hne hhead
  | false =>
    rw [keyPath_of_hasSigil_eq_false ho] at hhead
    rw [hasSigil_of_head?_segments hhead h] at ho
    cases ho

theorem branches_of_hasSigil {key other : String} (h : hasSigil key = true) (hne : other ≠ key) :
    Branches (keyPath other) (keyPath key) := by
  refine branches_of_head?_ne (keyPath_ne_nil _) (keyPath_ne_nil _) ?_
  rw [keyPath_of_hasSigil h, List.head?_cons]
  exact head?_keyPath_ne h hne

theorem Branching.branches {pattern : Entries} (h : Branching pattern) {key other : String}
    (hk : key ∈ Assoc.keys pattern) (ho : other ∈ Assoc.keys pattern) (hne : other ≠ key) :
    Branches (keyPath other) (keyPath key) := by
  cases hsk : hasSigil key with
  | true => exact branches_of_hasSigil hsk hne
  | false =>
    cases hso : hasSigil other with
    | true => exact (branches_of_hasSigil hso hne.symm).symm
    | false =>
      rw [keyPath_of_hasSigil_eq_false hsk, keyPath_of_hasSigil_eq_false hso]
      exact ⟨h other ho key hk hso hsk hne, h key hk other ho hsk hso hne.symm⟩

theorem get?_expand_of_hasSigil {pattern : Entries} (hd : (Assoc.keys pattern).Nodup)
    {entry : String × Value} (he : entry ∈ pattern) (hk : hasSigil entry.1 = true) :
    Assoc.get? entry.1 (expand pattern) = some entry.2 := by
  have hfound := at?_mergeChains hd he fun _ _ => branches_of_hasSigil hk
  rwa [keyPath_of_hasSigil hk, Entries.at?, ← expand_eq_mergeChains hd] at hfound

/-- **A field is found by following its key**, if no other is in the way. -/
theorem getPath?_expand {pattern : Entries} (hd : (Assoc.keys pattern).Nodup)
    (h : Branching pattern) {entry : String × Value} (he : entry ∈ pattern)
    (hk : hasSigil entry.1 = false) :
    (Value.record (expand pattern)).getPath? entry.1 = some entry.2 := by
  have hfound := at?_mergeChains hd he fun _ ho => h.branches (List.mem_map_of_mem he) ho
  rw [keyPath_of_hasSigil_eq_false hk, ← expand_eq_mergeChains hd] at hfound
  exact follow?_of_at? hfound

theorem isChain_eq_false_iff {key : String} : isChain key = false ↔ keyPath key = [key] := by
  refine ⟨keyPath_of_isChain_eq_false, fun h => ?_⟩
  cases hk : hasSigil key with
  | true => exact isChain_eq_false_of_hasSigil hk
  | false =>
    have hmem : key ∈ Path.segments key := by
      rw [← keyPath_of_hasSigil_eq_false hk, h]
      exact List.mem_singleton_self key
    obtain ⟨part, hpart, rfl⟩ := List.mem_map.mp hmem
    refine isChain_eq_false_of_isDotted ?_
    rw [Path.isDotted, List.any_eq_false]
    intro c hc
    rw [String.toList_ofList] at hc
    rw [not_isMark_of_mem_splitOn hpart hc]
    exact Bool.false_ne_true

theorem isChain_of_mem_expand {pattern : Entries} {entry : String × Value}
    (h : entry ∈ expand pattern) : isChain entry.1 = false :=
  isChain_eq_false_iff.mpr (keyPath_of_mem_expand h)

theorem hasSigil_of_mem_keys_expand {pattern : Entries} {key : String}
    (h : key ∈ Assoc.keys (expand pattern)) (hd : Path.isDotted key = true) :
      hasSigil key = true := by
  obtain ⟨entry, he, rfl⟩ := List.mem_map.mp h
  have hchain := isChain_of_mem_expand he
  rwa [isChain, hd, Bool.true_and, Bool.not_eq_false'] at hchain

theorem mem_keys_of_mem_keys_expand {pattern : Entries} {key : String} (hk : hasSigil key = true)
    (h : key ∈ Assoc.keys (expand pattern)) : key ∈ Assoc.keys pattern := by
  unfold expand at h
  split at h
  · obtain ⟨entry, he, rfl⟩ := List.mem_map.mp h
    rcases key_of_mem_mergeChains he with ⟨origin, ho, hhead⟩ | hm
    · by_contra hnone
      have hne : origin.1 ≠ entry.1 := fun heq => hnone (heq ▸ List.mem_map_of_mem ho)
      exact head?_keyPath_ne hk hne hhead
    · exact absurd hm List.not_mem_nil
  · exact h

@[simp] theorem expand_expand (pattern : Entries) : expand (expand pattern) = expand pattern :=
  expand_of_isChain_eq_false fun _ => isChain_of_mem_expand

theorem evaluate?_expand (registry : Registry) (data : Value) (pattern : Entries) :
    registry.evaluate? data (.record (expand pattern)) =
      registry.evaluate? data (.record pattern) := by
  rw [Registry.evaluate?_record, Registry.evaluate?_record, expand_expand]

/-- **Writing dotted keys out changes how a pattern is written, and no more.**  It does nothing to
what is written out, and what it makes has no dotted keys but operators.  A pattern without dotted
keys, which is left alone, is what merging would make of it.  No evaluation tells a pattern from the
one written out.  Operators keep their arguments; and if no field lies on the way to another one,
every field is found by following its key. -/
theorem expand_faithful {pattern : Entries} (hd : (Assoc.keys pattern).Nodup) :
    expand (expand pattern) = expand pattern ∧
    (∀ key ∈ Assoc.keys (expand pattern), Path.isDotted key = true → hasSigil key = true) ∧
    mergeChains [] pattern = expand pattern ∧
    (∀ (registry : Registry) (data : Value), registry.evaluate? data (.record (expand pattern)) =
      registry.evaluate? data (.record pattern)) ∧
    (∀ entry ∈ pattern, hasSigil entry.1 = true →
      Assoc.get? entry.1 (expand pattern) = some entry.2) ∧
    (Branching pattern → ∀ entry ∈ pattern, hasSigil entry.1 = false →
      (Value.record (expand pattern)).getPath? entry.1 = some entry.2) :=
  ⟨expand_expand pattern, fun _ => hasSigil_of_mem_keys_expand, (expand_eq_mergeChains hd).symm,
    fun registry data => evaluate?_expand registry data pattern,
    fun _ => get?_expand_of_hasSigil hd, fun h _ => getPath?_expand hd h⟩

/-- Fields with a common beginning, around an operator whose name has a dot. -/
theorem expand_faithful_shared :
    let pattern : Entries := [("a.b.0", .null), ("$or.x", .string "x"), ("a..b", .string "y")]
    (Assoc.keys pattern).Nodup ∧ Branching pattern ∧
      Assoc.get? "$or.x" (expand pattern) = some (.string "x") ∧
        (Value.record (expand pattern)).getPath? "a..b" = some (.string "y") := by
  intro pattern
  have hd : (Assoc.keys pattern).Nodup := by decide
  have hbranching : Branching pattern := by decide
  obtain ⟨-, -, -, -, hoperators, hfields⟩ := expand_faithful hd
  exact ⟨hd, hbranching, hoperators ("$or.x", .string "x") (by simp [pattern]) rfl,
    hfields hbranching ("a..b", .string "y") (by simp [pattern]) rfl⟩

end Pattern

end RecordQuery

import RecordQuery.Proofs.Pattern.Nesting

/-!
# Operators under one field

All operators under a field see the field as it is, and the record that holds it; what they write is
performed when the last of them is through.  Their order matters no more than that of their writes,
and writes to different keys can be made in any order.

* `perm_assignAll`: what writes to different keys make of a record.
* `Registry.step_of_isOperator`: an operator under a field leaves the field alone.
* `Registry.writes`: the writes of operators under a field.
* `Registry.run_of_operators`, `Registry.evaluate?_operators`: a run of operators under a field.
* `Registry.evaluate?_operators_perm`: operators under a field commute.
-/

namespace RecordQuery

/-! ### Writes to different keys -/

/-- The entry that a write makes; a deletion makes none. -/
def Assignment.entry? (write : Assignment) : Option (String × Value) :=
  match write.action with
  | .set value => some (write.key, value)
  | .delete => none

theorem Assignment.key_of_entry? {write : Assignment} {entry : String × Value}
    (h : write.entry? = some entry) : entry.1 = write.key := by
  obtain ⟨key, action⟩ := write
  cases action with
  | set value => exact (Option.some.inj h) ▸ rfl
  | delete => cases h

theorem Assignment.exists_apply_record (write : Assignment) {entries : Entries}
    (h : (Assoc.keys entries).Nodup) :
    ∃ made, write.apply (.record entries) = .record made ∧ (Assoc.keys made).Nodup ∧
      made.Perm (write.entry?.toList ++ entries.filter (·.1 != write.key)) := by
  obtain ⟨key, action⟩ := write
  rw [← Assoc.erase_eq_filter h]
  cases action with
  | set value => exact ⟨_, rfl, Assoc.nodup_insert h, Assoc.insert_perm key value entries⟩
  | delete => exact ⟨_, rfl, Assoc.nodup_erase h, List.Perm.refl _⟩

/-- **Writes to different keys make their entries, and keep those of all other keys.** -/
theorem perm_assignAll : ∀ {writes : List Assignment} {entries : Entries},
    (writes.map (·.key)).Nodup → (Assoc.keys entries).Nodup →
      ∃ made, assignAll (.record entries) writes = .record made ∧
        made.Perm (writes.filterMap Assignment.entry? ++
          entries.filter fun entry => entry.1 ∉ writes.map (·.key)) := by
  intro writes
  induction writes with
  | nil => intro entries _ _; exact ⟨entries, rfl, by simp⟩
  | cons write writes ih =>
    intro entries hw he
    rw [List.map_cons, List.nodup_cons] at hw
    obtain ⟨first, happly, hfirst, hperm⟩ := write.exists_apply_record he
    obtain ⟨made, hmade, hrest⟩ := ih hw.2 hfirst
    refine ⟨made, ?_, hrest.trans ?_⟩
    · rw [← hmade, ← happly]
      rfl
    · -- the entry of the first write stays, as no other write has its key
      have hkept : write.entry?.toList.filter (fun entry => entry.1 ∉ writes.map (·.key)) =
          write.entry?.toList := by
        rw [List.filter_eq_self]
        intro entry hentry
        rw [Assignment.key_of_entry? (Option.mem_toList.mp hentry)]
        exact decide_eq_true hw.1
      have hothers : (entries.filter (·.1 != write.key)).filter
          (fun entry => entry.1 ∉ writes.map (·.key)) =
            entries.filter fun entry => entry.1 ∉ (write :: writes).map (·.key) := by
        rw [List.filter_filter]
        refine List.filter_congr fun entry _ => Bool.eq_iff_iff.mpr ?_
        simp only [Bool.and_eq_true, decide_eq_true_eq, bne_iff_ne, List.map_cons, List.mem_cons,
          not_or, ne_eq, and_comm]
      have hmakes : (write :: writes).filterMap Assignment.entry? =
          write.entry?.toList ++ writes.filterMap Assignment.entry? := by
        rw [List.filterMap_cons]
        cases write.entry? <;> rfl
      have hleft := hperm.filter fun entry => entry.1 ∉ writes.map (·.key)
      rw [List.filter_append, hkept, hothers] at hleft
      rw [hmakes, List.append_assoc]
      exact (hleft.append_left _).trans (List.perm_append_comm_assoc ..)

namespace Registry

variable {registry : Registry}

/-- An operator under a field leaves the field alone and only writes. -/
theorem step_of_isOperator {key : String} (h : registry.isOperator key = true) {subject : Value}
    {place : Scope} {argument : Value} {outcome : Outcome}
    (ho : registry.step subject (some place) key argument = some outcome) :
    outcome = ⟨subject, outcome.assignments, []⟩ := by
  have hno : ¬(registry.predicate? key = none ∧ registry.transform? key = none) := by
    rw [← isOperator_eq_false_iff, h]
    exact Bool.noConfusion
  rcases step_cases ho with ⟨_, -, -, rfl⟩ | ⟨_, -, -, heff⟩ | ⟨_, _, hp, ht, -, -, -⟩ |
    ⟨hp, ht, -, -, -⟩
  · rfl
  · obtain ⟨hvalue, hedits⟩ := Projection.edits_of_inField heff
    rw [← hvalue, ← hedits]
  · exact absurd ⟨hp, ht⟩ hno
  · exact absurd ⟨hp, ht⟩ hno

theorem Marked.hasSigil_of_isOperator (hm : registry.Marked) {key : String}
    (h : registry.isOperator key = true) : Path.hasSigil key = true := by
  by_contra hno
  have hfield := isOperator_eq_false_iff.mpr (hm key (Bool.eq_false_iff.mpr hno))
  rw [hfield] at h
  cases h

/-- What one entry under a field writes; nothing if it does not match. -/
def writesOf (registry : Registry) (place : Scope) (entry : String × Value) : List Assignment :=
  ((registry.step (place.holder.field place.property) (some place) entry.1 entry.2).map
    (·.assignments)).getD []

def writes (registry : Registry) (place : Scope) (entries : Entries) : List Assignment :=
  entries.flatMap (registry.writesOf place)

/-- **A run of operators under a field** succeeds if each of them does, and collects their
writes. -/
theorem run_of_operators {key : String} {data : Value} : ∀ {entries : Entries},
    (∀ entry ∈ entries, registry.isOperator entry.1 = true) → ∀ outcome,
      registry.run (data.field key) (some ⟨key, data⟩) entries = some outcome ↔
        (∀ entry ∈ entries, (registry.step (data.field key) (some ⟨key, data⟩)
          entry.1 entry.2).isSome = true) ∧
        outcome = ⟨data.field key, registry.writes ⟨key, data⟩ entries, []⟩ := by
  intro entries
  induction entries with
  | nil =>
    intro _ outcome
    rw [run_nil, Option.some.injEq, eq_comm]
    simp [writes, Outcome.unchanged]
  | cons entry rest ih =>
    intro h outcome
    rw [List.forall_mem_cons] at h
    rw [run_cons, List.forall_mem_cons, writes, List.flatMap_cons, writesOf]
    cases hstep : registry.step (data.field key) (some ⟨key, data⟩) entry.1 entry.2 with
    | none => simp
    | some first =>
      obtain ⟨assignments, rfl⟩ : ∃ assignments, first = ⟨data.field key, assignments, []⟩ :=
        ⟨_, step_of_isOperator h.1 hstep⟩
      rw [Option.bind_some, Option.map_eq_some_iff]
      constructor
      · rintro ⟨second, hsecond, rfl⟩
        obtain ⟨hall, rfl⟩ := (ih h.2 second).mp hsecond
        exact ⟨⟨rfl, hall⟩, rfl⟩
      · rintro ⟨⟨-, hall⟩, rfl⟩
        exact ⟨_, (ih h.2 _).mpr ⟨hall, rfl⟩, rfl⟩

/-- **Operators under a field** write to the record that holds the field, once all are through. -/
theorem evaluate?_operators (hm : registry.Marked) {key : String}
    (hk : registry.isOperator key = false) (hd : Path.isDotted key = false) {pattern : Entries}
    (hp : ∀ entry ∈ pattern, registry.isOperator entry.1 = true) (data : Value)
    (found : Evaluation) :
    registry.evaluate? data (.record [(key, .record pattern)]) = some found ↔
      (∀ entry ∈ pattern, (registry.step (data.field key) (some ⟨key, data⟩)
        entry.1 entry.2).isSome = true) ∧
      found = ⟨assignAll data (registry.writes ⟨key, data⟩ pattern),
        (registry.writes ⟨key, data⟩ pattern).map .ofAssignment⟩ := by
  obtain ⟨hpredicate, htransform⟩ := isOperator_eq_false_iff.mp hk
  have hexpand : Pattern.expand pattern = pattern := by
    refine Pattern.expand_of_isChain_eq_false fun entry he => ?_
    refine Pattern.isChain_eq_false_of_hasSigil (hm.hasSigil_of_isOperator (hp entry he))
  rw [evaluate?_record, Pattern.expand_singleton (Pattern.isChain_eq_false_of_isDotted hd),
    run_cons, step_of_record hpredicate htransform, hexpand]
  cases hrun : registry.run (data.field key) (some ⟨key, data⟩) pattern with
  | none =>
    refine ⟨fun h => (by cases h), fun h => ?_⟩
    rw [(run_of_operators hp _).mpr ⟨h.1, rfl⟩] at hrun
    cases hrun
  | some inner =>
    obtain ⟨hall, rfl⟩ := (run_of_operators hp inner).mp hrun
    simp only [Option.map_some, Option.bind_some, run_nil, Outcome.absorb, writeBack_field,
      Outcome.followedBy, Outcome.unchanged, List.map_nil, List.nil_append, List.append_nil,
      Option.some.injEq]
    exact ⟨fun h => ⟨hall, h.symm⟩, fun h => h.2.symm⟩

/-- **Operators under a field commute.**  In whatever order they stand, all of them succeed or one
fails.  If they succeed and write to different keys, then they make the same record up to the order
of its keys, by the same edits up to their order. -/
theorem evaluate?_operators_perm (hm : registry.Marked) {key : String}
    (hk : registry.isOperator key = false) (hd : Path.isDotted key = false) {entries : Entries}
    (he : (Assoc.keys entries).Nodup) {pattern other : Entries}
    (hp : ∀ entry ∈ pattern, registry.isOperator entry.1 = true) (hperm : pattern.Perm other) :
    registry.accepts (.record entries) (.record [(key, .record other)]) =
        registry.accepts (.record entries) (.record [(key, .record pattern)]) ∧
      ∀ found,
        registry.evaluate? (.record entries) (.record [(key, .record pattern)]) = some found →
        ((registry.writes ⟨key, .record entries⟩ pattern).map (·.key)).Nodup →
          ∃ reordered made remade,
            registry.evaluate? (.record entries) (.record [(key, .record other)]) = some reordered ∧
            found.value = .record made ∧ reordered.value = .record remade ∧ made.Perm remade ∧
            found.edits.Perm reordered.edits := by
  have hother : ∀ entry ∈ other, registry.isOperator entry.1 = true :=
    fun entry hm => hp entry (hperm.mem_iff.mpr hm)
  have hevery : (∀ entry ∈ other, (registry.step ((Value.record entries).field key)
      (some ⟨key, .record entries⟩) entry.1 entry.2).isSome = true) ↔
        ∀ entry ∈ pattern, (registry.step ((Value.record entries).field key)
          (some ⟨key, .record entries⟩) entry.1 entry.2).isSome = true :=
    forall_congr' fun entry => by rw [hperm.mem_iff]
  have hwrites : (registry.writes ⟨key, .record entries⟩ pattern).Perm
      (registry.writes ⟨key, .record entries⟩ other) := hperm.flatMap_right _
  constructor
  · rw [Bool.eq_iff_iff, accepts, accepts, Option.isSome_iff_exists, Option.isSome_iff_exists]
    simp only [evaluate?_operators hm hk hd hp, evaluate?_operators hm hk hd hother, hevery,
      exists_and_left, exists_eq, and_true]
  · intro found hfound hdistinct
    obtain ⟨hall, rfl⟩ := (evaluate?_operators hm hk hd hp _ found).mp hfound
    obtain ⟨made, hmade, hkept⟩ := perm_assignAll hdistinct he
    have hkeys := hwrites.map (·.key)
    obtain ⟨remade, hremade, hrekept⟩ := perm_assignAll (hkeys.nodup_iff.mp hdistinct) he
    refine ⟨_, made, remade, (evaluate?_operators hm hk hd hother _ _).mpr ⟨hevery.mpr hall, rfl⟩,
      hmade, hremade, ?_, hwrites.map _⟩
    have hsame : (entries.filter fun entry =>
          entry.1 ∉ (registry.writes ⟨key, .record entries⟩ pattern).map (·.key)) =
        entries.filter fun entry =>
          entry.1 ∉ (registry.writes ⟨key, .record entries⟩ other).map (·.key) :=
      List.filter_congr fun entry _ => by simp only [hkeys.mem_iff]
    rw [hsame] at hkept
    exact hkept.trans (((hwrites.filterMap _).append_right _).trans hrekept.symm)

/-- A write under another name, and a field that is moved to a third place, in both orders. -/
theorem evaluate?_operators_perm_moved :
    let registry : Registry := ⟨[("$any", ⟨.flagOnly, fun _ _ _ => true⟩)],
      [("$put", ⟨fun _ options _ => .value options⟩),
        ("$move", ⟨fun _ _ _ => .deferred fun _ key previous =>
          [⟨key, .delete⟩, ⟨"old", .set previous⟩]⟩)]⟩
    let data : Entries := [("a", .null), ("b", .bool true)]
    let pattern : Entries := [("$put", .record [("as", .string "c")]), ("$any", .null),
      ("$move", .record [("as", .string "b")])]
    registry.Marked ∧ registry.isOperator "a" = false ∧ Path.isDotted "a" = false ∧
      (Assoc.keys data).Nodup ∧ (∀ entry ∈ pattern, registry.isOperator entry.1 = true) ∧
      ((registry.writes ⟨"a", .record data⟩ pattern).map (·.key)).Nodup ∧
      ∃ found reordered made remade,
        registry.evaluate? (.record data) (.record [("a", .record pattern)]) = some found ∧
        registry.evaluate? (.record data) (.record [("a", .record pattern.reverse)]) =
          some reordered ∧
        found.value = .record made ∧ reordered.value = .record remade ∧ made.Perm remade ∧
        found.edits.Perm reordered.edits := by
  intro registry data pattern
  have hmarked : registry.Marked := by
    intro key hk
    rw [predicate?, transform?, Assoc.get?_eq_none_iff, Assoc.get?_eq_none_iff]
    constructor
    · intro hm
      have hany : key = "$any" := by simpa [registry] using hm
      rw [hany] at hk
      cases hk
    · intro hm
      have htransform : key = "$put" ∨ key = "$move" := by simpa [registry] using hm
      rcases htransform with rfl | rfl <;> cases hk
  have hfield : registry.isOperator "a" = false := rfl
  have hdot : Path.isDotted "a" = false := by decide
  have hdistinct : (Assoc.keys data).Nodup := by decide
  have hoperators : ∀ entry ∈ pattern, registry.isOperator entry.1 = true := by
    simp [pattern, registry, isOperator, predicate?, transform?, Assoc.get?]
  have hkeys : (registry.writes ⟨"a", .record data⟩ pattern).map (·.key) = ["c", "b", "old"] := rfl
  have hwrites : ((registry.writes ⟨"a", .record data⟩ pattern).map (·.key)).Nodup := by
    rw [hkeys]
    decide
  have hall : ∀ entry ∈ pattern, (registry.step ((Value.record data).field "a")
      (some ⟨"a", .record data⟩) entry.1 entry.2).isSome = true :=
    List.forall_mem_cons.mpr
      ⟨rfl, List.forall_mem_cons.mpr ⟨rfl, List.forall_mem_singleton.mpr rfl⟩⟩
  have hfound := (evaluate?_operators hmarked hfield hdot hoperators (.record data) _).mpr
    ⟨hall, rfl⟩
  obtain ⟨reordered, made, remade, hreordered, hmade, hremade, hperm, hedits⟩ :=
    (evaluate?_operators_perm hmarked hfield hdot hdistinct hoperators
      pattern.reverse_perm.symm).2 _ hfound hwrites
  exact ⟨hmarked, hfield, hdot, hdistinct, hoperators, hwrites, _, reordered, made, remade, hfound,
    hreordered, hmade, hremade, hperm, hedits⟩

end Registry

end RecordQuery

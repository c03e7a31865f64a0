import RecordQuery.Proofs.Selector.Closure

/-!
# The normal form of selectors

Rewriting a selector a second time changes nothing.  The reason is that the first time leaves
nothing but safe operators, and paths with records of clauses under them; each of these is a clause
of its own and rewritten to itself.

* `Selector.IsClauses`: records with an operator, all of whose own operators are safe.
* `Selector.Normal`: the normal form, said without rewriting.
* `Selector.normal_normalize`: what rewriting makes is in normal form.
* `Selector.normalize_of_normal`: what is in normal form is left alone.
* `Selector.normalize_fixed_points`: rewriting is idempotent, its values are the selectors in normal
  form, and a record is a fixed point when each of its entries is.
-/

namespace RecordQuery.Selector

open RecordQuery.Path (hasSigil child)

/-- A record with at least one operator, all of whose own operators are safe. -/
def IsClauses (v : Value) : Prop :=
  ∃ clauses, v = .record clauses ∧ (∃ clause ∈ clauses, hasSigil clause.1 = true) ∧
    ∀ clause ∈ clauses, hasSigil clause.1 = true → isSafe clause.1 = true

/-- The normal form: distinct keys, which are safe operators or paths to clauses; the elements of
combinators are in normal form, too. -/
inductive Normal : Value → Prop
  | literal {v} : v.record? = none → Normal v
  | record {entries} : (Assoc.keys entries).Nodup →
      (∀ entry ∈ entries, hasSigil entry.1 = true → isSafe entry.1 = true) →
      (∀ entry ∈ entries, hasSigil entry.1 = false → IsClauses entry.2) →
      (∀ key items item, (key, .array items) ∈ entries → key ∈ combinators → item ∈ items →
        Normal item) → Normal (.record entries)

theorem isClauses_equation (literal : Value) : IsClauses (.record [("$eq", literal)]) :=
  ⟨_, rfl, ⟨_, List.mem_cons_self, (by decide : hasSigil "$eq" = true)⟩,
    List.forall_mem_singleton.mpr fun _ => (by decide : isSafe "$eq" = true)⟩

theorem isClauses_of_mem_clausesOf {clause : String × Value} : ∀ {entries : Entries}
    {parent : String}, clause ∈ clausesOf parent entries → hasSigil clause.1 = false →
      IsClauses clause.2 := by
  intro entries
  induction entries using Value.induct_entries with
  | step entries ih =>
    intro parent h hplain
    obtain ⟨⟨key, value⟩, he, hc⟩ := mem_clausesOf.mp h
    by_cases hk : hasSigil key = true
    · -- an operator is a clause under its own name
      rw [clausesOfEntry_operator hk] at hc
      split at hc
      · obtain rfl := List.mem_singleton.mp hc
        rw [hk] at hplain
        cases hplain
      · cases hc
    · rw [Bool.not_eq_true] at hk
      cases hr : value.record? with
      | none =>
        rw [clausesOfEntry_literal hk hr] at hc
        obtain rfl := List.mem_singleton.mp hc
        exact isClauses_equation value
      | some nested =>
        obtain rfl := Value.record?_eq_some_iff.mp hr
        cases hn : nested.any fun entry => hasSigil entry.1 with
        | false =>
          rw [clausesOfEntry_nested hk hn] at hc
          exact ih key nested he hc hplain
        | true =>
          rw [clausesOfEntry_clauses hk hn] at hc
          split at hc
          · cases hc
          · next hsafe =>
            obtain rfl := List.mem_singleton.mp hc
            rw [Bool.not_eq_true, any_isUnsafe_eq_false_iff] at hsafe
            exact ⟨nested, rfl, List.any_eq_true.mp hn, hsafe⟩

/-- **Rewriting leads to the normal form.** -/
theorem normal_normalize : ∀ raw : Value, Normal (normalize raw) := by
  intro raw
  induction raw using Selector.induct with
  | literal v hv =>
    cases v with
    | record => cases hv
    | _ => exact .literal rfl
  | record entries ih =>
    have hclause : ∀ clause ∈ Assoc.ofList (clausesOf "" entries), clause ∈ clausesOf "" entries :=
      fun clause => Assoc.mem_of_mem_ofList
    rw [normalize_record]
    refine .record (Assoc.nodup_ofList _) (fun clause hc hs => ?_) (fun clause hc hs => ?_) ?_
    · exact (mem_clausesOf_operator (by decide) (hclause clause hc) hs).1
    · exact isClauses_of_mem_clausesOf (hclause clause hc) hs
    · intro key items item hc hk hi
      -- the items are those of the selector, rewritten
      obtain ⟨-, argument, ha, hv⟩ := mem_clausesOf_operator (by decide) (hclause _ hc)
        (hasSigil_of_mem_combinators hk)
      dsimp only at ha hv
      cases argument with
      | array given =>
        rw [normalizeArgument_array hk, Value.array.injEq] at hv
        subst hv
        obtain ⟨origin, ho, rfl⟩ := mem_normalizeItems.mp hi
        exact ih key given origin ha ho
      | _ => cases hv

theorem normalizeItems_of_fixed {items : List Value} (h : ∀ item ∈ items, normalize item = item) :
    normalizeItems items = items := by
  induction items with
  | nil => rfl
  | cons item items ih =>
    rw [List.forall_mem_cons] at h
    rw [normalizeItems, h.1, ih h.2]

theorem clausesOfEntry_eq_self {key : String} {value : Value}
    (hsafe : hasSigil key = true → isSafe key = true)
    (hargument : hasSigil key = true → normalizeArgument key value = value)
    (hclauses : hasSigil key = false → IsClauses value) :
    clausesOfEntry "" key value = [(key, value)] := by
  by_cases hk : hasSigil key = true
  · rw [clausesOfEntry_operator hk, if_pos (hsafe hk), hargument hk]
  · rw [Bool.not_eq_true] at hk
    obtain ⟨clauses, rfl, hsome, hall⟩ := hclauses hk
    rw [clausesOfEntry_safe hk (List.any_eq_true.mpr hsome) hall, child, if_pos rfl]

theorem normalize_record_eq_self {entries : Entries} (hd : (Assoc.keys entries).Nodup)
    (h : ∀ entry ∈ entries, clausesOfEntry "" entry.1 entry.2 = [entry]) :
    normalize (.record entries) = .record entries := by
  have hall : clausesOf "" entries = entries := by
    rw [clausesOf_eq_flatMap, List.flatMap_congr h, List.flatMap_singleton']
  rw [normalize_record, hall, Assoc.ofList_of_nodup hd]

theorem normalizeArgument_eq_self {key : String} {value : Value}
    (h : ∀ items, value = .array items → key ∈ combinators → ∀ item ∈ items,
      normalize item = item) :
    normalizeArgument key value = value := by
  by_cases hk : key ∈ combinators
  · cases value with
    | array items => rw [normalizeArgument_array hk, normalizeItems_of_fixed (h items rfl hk)]
    | _ => rfl
  · exact normalizeArgument_of_not_mem hk value

/-- **Rewriting leaves the normal form alone.** -/
theorem normalize_of_normal {v : Value} (h : Normal v) : normalize v = v := by
  induction h with
  | @literal v hv =>
    cases v with
    | record => cases hv
    | _ => rfl
  | @record entries hd hsafe hclauses _ ih =>
    refine normalize_record_eq_self hd fun entry he => ?_
    refine clausesOfEntry_eq_self (hsafe entry he) (fun _ => ?_) (hclauses entry he)
    exact normalizeArgument_eq_self fun items hv hk item hi => ih entry.1 items item (hv ▸ he) hk hi

theorem normalize_eq_self_iff {v : Value} : normalize v = v ↔ Normal v :=
  ⟨fun h => h ▸ normal_normalize v, normalize_of_normal⟩

/-- What is no record is left alone; so only the records among items matter. -/
theorem normal_of_forall_record {v : Value}
    (h : ∀ entries, v = .record entries → normalize (.record entries) = .record entries) :
    Normal v := by
  cases v with
  | record entries => exact normalize_eq_self_iff.mp (h entries rfl)
  | _ => exact .literal rfl

/-- **Rewriting is idempotent, and its fixed points are known by their entries.**  The selectors
that it makes are those in normal form, and a record is one of them when each of its entries is a
safe operator, with fixed points for the records that a combinator lists, or a path to a record of
clauses. -/
theorem normalize_fixed_points :
    (∀ raw, normalize (normalize raw) = normalize raw) ∧
    (∀ v, (∃ raw, normalize raw = v) ↔ Normal v) ∧
    ∀ entries, (Assoc.keys entries).Nodup →
      (normalize (.record entries) = .record entries ↔ ∀ entry ∈ entries,
        (hasSigil entry.1 = true ∧ isSafe entry.1 = true ∧
          ∀ items, entry.2 = .array items → entry.1 ∈ combinators → ∀ inner,
            Value.record inner ∈ items → normalize (.record inner) = .record inner) ∨
        (hasSigil entry.1 = false ∧ IsClauses entry.2)) := by
  refine ⟨fun raw => normalize_of_normal (normal_normalize raw), fun v => ?_, fun entries hd => ?_⟩
  · exact ⟨fun ⟨raw, hraw⟩ => hraw ▸ normal_normalize raw, fun h => ⟨v, normalize_of_normal h⟩⟩
  · rw [normalize_eq_self_iff]
    constructor
    · intro h entry he
      cases h with
      | literal hr => cases hr
      | record _ hsafe hclauses hitems =>
        by_cases hk : hasSigil entry.1 = true
        · refine Or.inl ⟨hk, hsafe entry he hk, fun items hv hc inner hi => ?_⟩
          exact normalize_of_normal (hitems entry.1 items _ (hv ▸ he) hc hi)
        · rw [Bool.not_eq_true] at hk
          exact Or.inr ⟨hk, hclauses entry he hk⟩
    · intro h
      refine .record hd (fun entry he hk => ?_) (fun entry he hk => ?_) ?_
      · rcases h entry he with ⟨-, hsafe, -⟩ | ⟨hn, -⟩
        · exact hsafe
        · rw [hk] at hn; cases hn
      · rcases h entry he with ⟨hs, -⟩ | ⟨-, hclauses⟩
        · rw [hk] at hs; cases hs
        · exact hclauses
      · intro key items item he hk hi
        rcases h _ he with ⟨-, -, hall⟩ | ⟨hn, -⟩
        · exact normal_of_forall_record fun inner hinner => hall items rfl hk inner (hinner ▸ hi)
        · rw [hasSigil_of_mem_combinators hk] at hn
          cases hn

/-- An alternative with a selector and a value that is none, beside a path with an equation and a
field that is no operator; and a literal under a path, which is no fixed point. -/
theorem normalize_fixed_points_nested :
    let inner : Entries := [("a", .record [("$exists", .bool true)])]
    let entries : Entries :=
      [("$or", .array [.record inner, .null]), ("b.c", .record [("$eq", .null), ("d", .null)])]
    ((Assoc.keys entries).Nodup ∧ normalize (.record entries) = .record entries) ∧
      (Assoc.keys [("a", Value.null)]).Nodup ∧
        normalize (.record [("a", .null)]) ≠ .record [("a", .null)] := by
  intro inner entries
  have hd : (Assoc.keys entries).Nodup := by decide
  have hsingle : (Assoc.keys [("a", Value.null)]).Nodup := by decide
  have hinner : normalize (.record inner) = .record inner := by rfl
  refine ⟨⟨hd, (normalize_fixed_points.2.2 entries hd).mpr fun entry he => ?_⟩,
    hsingle, fun h => ?_⟩
  · simp only [entries, List.mem_cons, List.not_mem_nil, or_false] at he
    rcases he with rfl | rfl
    · refine Or.inl ⟨by decide, by decide, fun items hv _ other ho => ?_⟩
      obtain rfl := Value.array.inj hv
      simp only [List.mem_cons, Value.record.injEq, List.not_mem_nil, or_false, reduceCtorEq] at ho
      exact ho ▸ hinner
    · exact Or.inr ⟨by decide, _, rfl, ⟨_, List.mem_cons_self, by decide⟩, by simp; decide⟩
  · have hliteral := (normalize_fixed_points.2.2 _ hsingle).mp h _ List.mem_cons_self
    rcases hliteral with ⟨hs, -⟩ | ⟨-, _, hv, -⟩
    · exact absurd hs (by decide)
    · cases hv

end RecordQuery.Selector

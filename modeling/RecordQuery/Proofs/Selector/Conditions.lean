import RecordQuery.Proofs.Selector.Meaning

/-!
# The conditions of a selector

A condition is an operator with its argument, at the end of the path of the fields above it; a
literal is an equation.  The clauses that rewriting lists have all the conditions of the selector,
but those that lead to one path take the place of each other when they are inserted, also where they
ask for different operators there.

* `Selector.conditionsOf`: the conditions of a selector.
* `Selector.conditionsOf_clausesOf`: the clauses of a selector have its conditions.
* `Selector.conditions_normalize_of_undotted`: without dots in keys all conditions are kept.
* `Selector.mem_conditionsOf_ofList_iff`: of the clauses for one path the last one keeps its
  conditions.
* `Selector.conditions_normalize`: rewriting loses the conditions of the clauses that are not the
  last ones for their paths, and no others.
* `Selector.condition_lost`: a condition that is lost to another operator.
-/

namespace RecordQuery.Selector

open RecordQuery.Path (hasSigil child)
open Pattern (keyPath)

/-- An operator with its argument, at the end of a path of fields. -/
structure Condition where
  path : List String
  operator : String
  argument : Value

namespace Condition

/-- Where a condition stands, whatever its argument is. -/
def place (condition : Condition) : List String × String := (condition.path, condition.operator)

/-- The condition in the safe dialect.  Combinators list selectors that are rewritten, those in the
clauses of a field excepted. -/
def normalized (condition : Condition) : Condition :=
  if condition.path = [] then
    { condition with argument := normalizeArgument condition.operator condition.argument }
  else condition

theorem place_normalized (condition : Condition) :
    condition.normalized.place = condition.place := by
  rw [normalized]
  split <;> rfl

theorem map_place_map_normalized (conditions : List Condition) :
    (conditions.map normalized).map place = conditions.map place := by
  rw [List.map_map]
  exact List.map_congr_left fun condition _ => place_normalized condition

end Condition

mutual

/-- The conditions of a record at the end of a path. -/
def conditionsOf (path : List String) : List (String × Value) → List Condition
  | [] => []
  | (key, value) :: rest => conditionsUnder path key value ++ conditionsOf path rest

/-- The conditions of an entry of a record at the end of a path. -/
def conditionsUnder (path : List String) (key : String) : Value → List Condition
  | .record nested =>
    if hasSigil key then [⟨path, key, .record nested⟩]
    else conditionsOf (path ++ keyPath key) nested
  | value =>
    if hasSigil key then [⟨path, key, value⟩] else [⟨path ++ keyPath key, "$eq", value⟩]

end

/-- The conditions of a selector; one that is no record has none. -/
def conditions : Value → List Condition
  | .record entries => conditionsOf [] entries
  | _ => []

/-! ### Kinds of entries -/

section Entries

variable {path : List String} {key : String}

theorem conditionsOf_eq_flatMap (path : List String) (entries : Entries) :
    conditionsOf path entries =
      entries.flatMap fun entry => conditionsUnder path entry.1 entry.2 := by
  induction entries with
  | nil => rfl
  | cons entry rest ih => rw [conditionsOf, ih, List.flatMap_cons]

theorem mem_conditionsOf {condition : Condition} {entries : Entries} :
    condition ∈ conditionsOf path entries ↔
      ∃ entry ∈ entries, condition ∈ conditionsUnder path entry.1 entry.2 := by
  rw [conditionsOf_eq_flatMap, List.mem_flatMap]

theorem conditionsOf_append (path : List String) (first second : Entries) :
    conditionsOf path (first ++ second) = conditionsOf path first ++ conditionsOf path second := by
  rw [conditionsOf_eq_flatMap, List.flatMap_append, ← conditionsOf_eq_flatMap,
    ← conditionsOf_eq_flatMap]

theorem conditionsOf_cons (path : List String) (entry : String × Value) (rest : Entries) :
    conditionsOf path (entry :: rest) =
      conditionsUnder path entry.1 entry.2 ++ conditionsOf path rest := by
  obtain ⟨key, value⟩ := entry
  rw [conditionsOf]

theorem conditionsOf_singleton (path : List String) (key : String) (value : Value) :
    conditionsOf path [(key, value)] = conditionsUnder path key value := by
  rw [conditionsOf, conditionsOf, List.append_nil]

theorem conditionsUnder_operator (hk : hasSigil key = true) (path : List String)
    (argument : Value) :
    conditionsUnder path key argument = [⟨path, key, argument⟩] := by
  cases argument <;> simp [conditionsUnder, hk]

theorem conditionsUnder_literal (hk : hasSigil key = false) {literal : Value}
    (hl : literal.record? = none) (path : List String) :
    conditionsUnder path key literal = [⟨path ++ keyPath key, "$eq", literal⟩] := by
  cases literal with
  | record => cases hl
  | _ => simp [conditionsUnder, hk]

theorem conditionsUnder_nested (hk : hasSigil key = false) (path : List String) (nested : Entries) :
    conditionsUnder path key (.record nested) = conditionsOf (path ++ keyPath key) nested := by
  simp [conditionsUnder, hk]

theorem isPrefix_of_mem_conditionsUnder {condition : Condition} : ∀ (value : Value)
    {path : List String} {key : String}, hasSigil key = false →
      condition ∈ conditionsUnder path key value → path ++ keyPath key <+: condition.path := by
  intro value
  induction value using Value.induct with
  | scalar v _ hr =>
    intro path key hk h
    rw [conditionsUnder_literal hk hr, List.mem_singleton] at h
    exact h ▸ List.prefix_refl _
  | array items _ =>
    intro path key hk h
    rw [conditionsUnder_literal hk rfl, List.mem_singleton] at h
    exact h ▸ List.prefix_refl _
  | record nested ih =>
    intro path key hk h
    rw [conditionsUnder_nested hk] at h
    obtain ⟨entry, he, hc⟩ := mem_conditionsOf.mp h
    cases hs : hasSigil entry.1 with
    | true =>
      rw [conditionsUnder_operator hs, List.mem_singleton] at hc
      exact hc ▸ List.prefix_refl _
    | false => exact (List.prefix_append ..).trans (ih entry he hs hc)

theorem normalized_of_mem_conditionsUnder (hk : hasSigil key = false) {value : Value}
    {condition : Condition} (h : condition ∈ conditionsUnder path key value) :
    condition.normalized = condition := by
  have hpath := isPrefix_of_mem_conditionsUnder value hk h
  rw [Condition.normalized, if_neg]
  intro hnil
  rw [hnil, List.prefix_nil, List.append_eq_nil_iff] at hpath
  exact Pattern.keyPath_ne_nil key hpath.2

end Entries

/-! ### Clauses -/

theorem conditionsOf_equation {literal : Value} {path : List String} {parent key : String}
    (hl : literal.record? = none) (hk : hasSigil key = false)
    (hc : hasSigil (child parent key) = false)
    (hpath : keyPath (child parent key) = path ++ keyPath key) :
    conditionsOf [] (clausesOfEntry parent key literal) = conditionsUnder path key literal := by
  rw [clausesOfEntry_literal hk hl, conditionsOf_singleton, conditionsUnder_nested hc,
    conditionsOf_singleton, conditionsUnder_operator (by decide), hpath,
    conditionsUnder_literal hk hl, List.nil_append]

theorem conditionsOf_clausesOf_eq_flatMap (parent : String) (entries : Entries) :
    conditionsOf [] (clausesOf parent entries) =
      entries.flatMap fun entry => conditionsOf [] (clausesOfEntry parent entry.1 entry.2) := by
  rw [clausesOf_eq_flatMap, conditionsOf_eq_flatMap, List.flatMap_assoc]
  exact List.flatMap_congr fun entry _ => (conditionsOf_eq_flatMap ..).symm

theorem conditionsOf_clausesOfEntry : ∀ (value : Value) {path : List String} {parent key : String},
    hasSigil key = false → hasSigil (child parent key) = false →
      keyPath (child parent key) = path ++ keyPath key →
        (child parent key = "" → ∀ nested, value = .record nested →
          nested = [] ∨ (nested.any fun entry => hasSigil entry.1) = true) →
          (∀ condition ∈ conditionsUnder path key value, isSafe condition.operator = true) →
            conditionsOf [] (clausesOfEntry parent key value) = conditionsUnder path key value := by
  intro value
  induction value using Value.induct with
  | scalar v _ hr =>
    intro path parent key hk hc hpath _ _
    exact conditionsOf_equation hr hk hc hpath
  | array items _ =>
    intro path parent key hk hc hpath _ _
    exact conditionsOf_equation rfl hk hc hpath
  | record nested ih =>
    intro path parent key hk hc hpath hroot hsafe
    rw [conditionsUnder_nested hk] at hsafe ⊢
    cases hn : nested.any fun entry => hasSigil entry.1 with
    | true =>
      have hknown : ∀ entry ∈ nested, hasSigil entry.1 = true → isSafe entry.1 = true := by
        intro entry he hs
        refine hsafe ⟨path ++ keyPath key, entry.1, entry.2⟩ (mem_conditionsOf.mpr ⟨entry, he, ?_⟩)
        rw [conditionsUnder_operator hs]
        exact List.mem_singleton_self _
      rw [clausesOfEntry_safe hk hn hknown, conditionsOf_singleton,
        conditionsUnder_nested hc, hpath, List.nil_append]
    | false =>
      by_cases hne : nested = []
      · subst hne
        rw [clausesOfEntry_nested hk hn]
        rfl
      · -- one level down, below the path of the key
        have hbelow : child parent key ≠ "" := fun he => by
          rcases hroot he nested rfl with h | h
          · exact hne h
          · rw [hn] at h; cases h
        rw [clausesOfEntry_nested hk hn, conditionsOf_clausesOf_eq_flatMap, conditionsOf_eq_flatMap]
        refine List.flatMap_congr fun entry he => ?_
        have hentry : hasSigil entry.1 = false := by
          rw [List.any_eq_false] at hn
          simpa using hn entry he
        refine ih entry he hentry (hasSigil_child hc hentry) ?_
          (fun h => absurd h (child_ne_empty hbelow)) fun condition hm => ?_
        · rw [keyPath_child hbelow hc hentry, hpath]
        · exact hsafe condition (mem_conditionsOf.mpr ⟨entry, he, hm⟩)

/-- Fields without a name hold conditions and no further fields, or nothing. -/
def Named (entries : Entries) : Prop :=
  ∀ nested, ("", Value.record nested) ∈ entries →
    nested = [] ∨ (nested.any fun entry => hasSigil entry.1) = true

/-- **The clauses of a selector have its conditions**, one for each. -/
theorem conditionsOf_clausesOf {entries : Entries}
    (hs : ∀ condition ∈ conditionsOf [] entries, isSafe condition.operator = true)
    (hn : Named entries) :
    conditionsOf [] (clausesOf "" entries) = (conditionsOf [] entries).map .normalized := by
  rw [conditionsOf_clausesOf_eq_flatMap, conditionsOf_eq_flatMap, List.map_flatMap]
  refine List.flatMap_congr fun entry he => ?_
  have hsafe : ∀ condition ∈ conditionsUnder [] entry.1 entry.2, isSafe condition.operator = true :=
    fun condition hm => hs condition (mem_conditionsOf.mpr ⟨entry, he, hm⟩)
  cases hk : hasSigil entry.1 with
  | true =>
    rw [conditionsUnder_operator hk] at hsafe ⊢
    have hknown : isSafe entry.1 = true := hsafe _ (List.mem_singleton_self _)
    rw [clausesOfEntry_operator hk, if_pos hknown, conditionsOf_singleton,
      conditionsUnder_operator hk]
    rfl
  | false =>
    have hroot : child "" entry.1 = entry.1 := if_pos rfl
    have hkept : (conditionsUnder [] entry.1 entry.2).map .normalized =
        conditionsUnder [] entry.1 entry.2 :=
      (List.map_congr_left fun _ => normalized_of_mem_conditionsUnder hk).trans (List.map_id _)
    rw [hkept]
    refine conditionsOf_clausesOfEntry entry.2 hk (hroot.symm ▸ hk) ?_
      (fun hempty nested hv => ?_) hsafe
    · rw [hroot, List.nil_append]
    · rw [hroot] at hempty
      exact hn nested (by rw [← hempty, ← hv]; exact he)

/-- What is rewritten has the conditions of the selector if no two clauses lead to one path. -/
theorem conditions_normalize_of_nodup {entries : Entries}
    (hs : ∀ condition ∈ conditions (.record entries), isSafe condition.operator = true)
    (hn : Named entries) (hd : (Assoc.keys (clausesOf "" entries)).Nodup) :
    conditions (normalize (.record entries)) = (conditions (.record entries)).map .normalized := by
  rw [normalize_record, Assoc.ofList_of_nodup hd]
  exact conditionsOf_clausesOf hs hn

/-- **Selectors with distinct keys and without dots keep all their conditions.** -/
theorem conditions_normalize_of_undotted {entries : Entries}
    (hs : ∀ condition ∈ conditions (.record entries), isSafe condition.operator = true)
    (hw : (Value.record entries).WellFormed) (hu : ∀ part, Under part entries → Undotted part) :
    conditions (normalize (.record entries)) = (conditions (.record entries)).map .normalized :=
  have hclear := unambiguous_of_undotted hw hu
  conditions_normalize_of_nodup hs hclear.named hclear.distinct

/-! ### Clauses for one path -/

theorem not_mem_of_count_place {before after : Entries} {clause : String × Value}
    {condition : Condition} (hm : condition ∈ conditionsUnder [] clause.1 clause.2)
    (hcount : ((conditionsOf [] (before ++ clause :: after)).map Condition.place).count
      condition.place = 1) :
    condition ∉ conditionsOf [] before ∧ condition ∉ conditionsOf [] after := by
  rw [conditionsOf_append, conditionsOf_cons, List.map_append, List.map_append, List.count_append,
    List.count_append] at hcount
  have hpos : ∀ {conditions : List Condition}, condition ∈ conditions →
      0 < (conditions.map Condition.place).count condition.place :=
    fun h => List.count_pos_iff.mpr (List.mem_map_of_mem h)
  have hclause := hpos hm
  constructor
  · intro h
    have := hpos h
    omega
  · intro h
    have := hpos h
    omega

/-- **A condition is kept with the last clause for a path, and lost with the others.** -/
theorem mem_conditionsOf_ofList_iff {before after : Entries} {clause : String × Value}
    {condition : Condition} (hm : condition ∈ conditionsUnder [] clause.1 clause.2)
    (hcount : ((conditionsOf [] (before ++ clause :: after)).map Condition.place).count
      condition.place = 1) :
    condition ∈ conditionsOf [] (Assoc.ofList (before ++ clause :: after)) ↔
      clause.1 ∉ Assoc.keys after := by
  obtain ⟨hbefore, hafter⟩ := not_mem_of_count_place hm hcount
  constructor
  · intro h hlater
    obtain ⟨other, ho, hother⟩ := mem_conditionsOf.mp h
    have hsame : other = clause := by
      rcases List.mem_append.mp (Assoc.mem_of_mem_ofList ho) with hin | hin
      · exact absurd (mem_conditionsOf.mpr ⟨other, hin, hother⟩) hbefore
      · rcases List.mem_cons.mp hin with heq | hin
        · exact heq
        · exact absurd (mem_conditionsOf.mpr ⟨other, hin, hother⟩) hafter
    subst hsame
    -- the last clause for the path would be this one again
    obtain ⟨first, value, rest, rfl, hlast⟩ := Assoc.exists_last_of_mem_keys hlater
    have hkept := Assoc.get?_of_mem (Assoc.nodup_ofList _) ho
    have hfound := Assoc.get?_ofList_of_not_mem hlast (before ++ other :: first) value
    rw [List.append_assoc, List.cons_append, hkept, Option.some.injEq] at hfound
    refine hafter (mem_conditionsOf.mpr ⟨other, ?_, hother⟩)
    exact List.mem_append_right _ (List.mem_cons.mpr (Or.inl (Prod.ext rfl hfound)))
  · intro hlast
    have hfound := Assoc.get?_ofList_of_not_mem hlast before clause.2
    exact mem_conditionsOf.mpr ⟨clause, Assoc.mem_of_get? hfound, hm⟩

/-- **Rewriting keeps the conditions of a selector, as long as no two clauses lead to one path.**
Then the conditions are those of the selector, in their order.  In any case a condition that stands
at one place only comes from one clause, and it is lost exactly when a later clause leads to the
path of this one. -/
theorem conditions_normalize {entries : Entries}
    (hs : ∀ condition ∈ conditions (.record entries), isSafe condition.operator = true)
    (hn : Named entries) :
    ((Assoc.keys (clausesOf "" entries)).Nodup → conditions (normalize (.record entries)) =
      (conditions (.record entries)).map .normalized) ∧
    ∀ condition ∈ conditions (.record entries),
      ((conditions (.record entries)).map Condition.place).count condition.place = 1 →
        ∃ before clause after, clausesOf "" entries = before ++ clause :: after ∧
          condition.normalized ∈ conditions (.record [clause]) ∧
            (condition.normalized ∈ conditions (normalize (.record entries)) ↔
              clause.1 ∉ Assoc.keys after) := by
  refine ⟨conditions_normalize_of_nodup hs hn, fun condition hc hcount => ?_⟩
  have hall := conditionsOf_clausesOf hs hn
  have hkept : condition.normalized ∈ conditionsOf [] (clausesOf "" entries) :=
    hall ▸ List.mem_map_of_mem hc
  obtain ⟨clause, hclause, hm⟩ := mem_conditionsOf.mp hkept
  obtain ⟨before, after, hsplit⟩ := List.append_of_mem hclause
  have hplaces : ((conditionsOf [] (before ++ clause :: after)).map Condition.place).count
      condition.normalized.place = 1 := by
    rwa [← hsplit, hall, Condition.map_place_map_normalized, Condition.place_normalized]
  refine ⟨before, clause, after, hsplit, ?_, ?_⟩
  · exact mem_conditionsOf.mpr ⟨clause, List.mem_singleton_self _, hm⟩
  · rw [normalize_record, hsplit]
    exact mem_conditionsOf_ofList_iff hm hplaces

/-- Two fields below one, and a combinator. -/
theorem conditions_normalize_nested :
    let entries : Entries :=
      [("a", .record [("b", .record [("$lt", .string "x")]), ("c", .null)]),
        ("$or", .array [.record [("d", .null)]])]
    let condition : Condition := ⟨["a", "b"], "$lt", .string "x"⟩
    (∀ other ∈ conditions (.record entries), isSafe other.operator = true) ∧ Named entries ∧
      (Assoc.keys (clausesOf "" entries)).Nodup ∧
        conditions (normalize (.record entries)) =
          (conditions (.record entries)).map .normalized ∧
        ((conditions (.record entries)).map Condition.place).count condition.place = 1 ∧
          condition.normalized ∈ conditions (normalize (.record entries)) := by
  intro entries condition
  have hconditions : conditions (.record entries) =
      [condition, ⟨["a", "c"], "$eq", .null⟩,
        ⟨[], "$or", .array [.record [("d", .null)]]⟩] := by rfl
  have hs : ∀ other ∈ conditions (.record entries), isSafe other.operator = true := by
    rw [hconditions]
    simp [condition]
    decide
  have hn : Named entries := by
    intro nested hm
    simp [entries] at hm
  have hd : (Assoc.keys (clausesOf "" entries)).Nodup := by decide
  have hcount : ((conditions (.record entries)).map Condition.place).count condition.place = 1 := by
    rw [hconditions]
    decide
  obtain ⟨hall, hsingle⟩ := conditions_normalize hs hn
  obtain ⟨before, clause, after, hsplit, -, hkept⟩ :=
    hsingle condition (hconditions ▸ List.mem_cons_self) hcount
  refine ⟨hs, hn, hd, hall hd, hcount, hkept.mpr fun hm => ?_⟩
  rw [hsplit, Assoc.keys_append, Assoc.keys_cons] at hd
  exact (List.nodup_cons.mp (List.nodup_append.mp hd).2.1).1 hm

/-- Of two clauses for one path that are written in different ways the first one is lost, although
another operator stands in the second one. -/
theorem condition_lost :
    let entries : Entries := [("a.b", .record [("$gt", .number 1)]),
      ("a", .record [("b", .record [("$lt", .number 5)])])]
    let condition : Condition := ⟨["a", "b"], "$gt", .number 1⟩
    (∀ other ∈ conditions (.record entries), isSafe other.operator = true) ∧ Named entries ∧
      condition ∈ conditions (.record entries) ∧
        ((conditions (.record entries)).map Condition.place).count condition.place = 1 ∧
          condition.normalized ∉ conditions (normalize (.record entries)) := by
  intro entries condition
  have hconditions : conditions (.record entries) =
      [condition, ⟨["a", "b"], "$lt", .number 5⟩] := by rfl
  have hnormalized : conditions (normalize (.record entries)) =
      [⟨["a", "b"], "$lt", .number 5⟩] := by rfl
  rw [hconditions, hnormalized]
  refine ⟨?_, ?_, List.mem_cons_self, ?_, ?_⟩
  · simp [condition]; decide
  · intro nested hm
    simp [entries] at hm
  · simp [condition, Condition.place]
  · simp [condition, Condition.normalized]

end RecordQuery.Selector

import RecordQuery.Proofs.Value.Parts
import RecordQuery.Selector

/-!
# The clauses of a selector

Rewriting a selector into the safe dialect walks through its records and inserts clauses, one after
the other, into the selector that it makes.  Here the clauses are listed first.

* `Selector.induct`: induction over selectors and the elements of the arrays under their keys.
* `Selector.clausesOf`: the clauses that the entries of a record contribute, in order.
* `Selector.normalize_record`: the rewritten selector holds these clauses.
* `Selector.clausesOfEntry_operator`, `Selector.clausesOfEntry_literal`,
  `Selector.clausesOfEntry_clauses`, `Selector.clausesOfEntry_nested`: what each kind of entry
  contributes.
-/

namespace RecordQuery.Selector

open RecordQuery.Path (hasSigil child)

/-- Induction over selectors, with the hypothesis for the elements of the arrays under their
keys. -/
theorem induct {motive : Value → Prop} (literal : ∀ v : Value, v.record? = none → motive v)
    (record : ∀ entries : Entries, (∀ key items item, (key, Value.array items) ∈ entries →
      item ∈ items → motive item) → motive (.record entries)) : ∀ v : Value, motive v := by
  intro v
  cases v with
  | record entries =>
    exact record entries fun key items item hm hi => induct literal record item
  | _ => exact literal _ rfl
termination_by v => sizeOf v
decreasing_by
  subst_vars
  exact Nat.lt_trans (Value.sizeOf_item_lt hi) (Value.sizeOf_field_lt hm)

/-- The argument of an operator at the root in the safe dialect. -/
def normalizeArgument (key : String) : Value → Value
  | .array items => .array (if combinators.contains key then normalizeItems items else items)
  | v => v

mutual

/-- The clauses that the entries of a record below a path contribute, in order. -/
def clausesOf (parent : String) : List (String × Value) → Entries
  | [] => []
  | (key, value) :: rest => clausesOfEntry parent key value ++ clausesOf parent rest

/-- The clauses that an entry of a record below a path contributes. -/
def clausesOfEntry (parent key : String) : Value → Entries
  | .record nested =>
    if hasSigil key then if isSafe key then [(key, .record nested)] else []
    else if nested.any fun entry => hasSigil entry.1 then
      if nested.any fun entry => isUnsafe entry.1 then [] else [(child parent key, .record nested)]
    else clausesOf (child parent key) nested
  | literal =>
    if hasSigil key then if isSafe key then [(key, normalizeArgument key literal)] else []
    else [(child parent key, .record [("$eq", literal)])]

end

/-- Insertion of clauses, one after the other. -/
def insertAll (clauses out : Entries) : Entries :=
  clauses.foldl (fun found clause => Assoc.insert clause.1 clause.2 found) out

theorem insertAll_append (first second out : Entries) :
    insertAll (first ++ second) out = insertAll second (insertAll first out) := List.foldl_append

theorem clausesOf_eq_flatMap (parent : String) (entries : Entries) :
    clausesOf parent entries =
      entries.flatMap fun entry => clausesOfEntry parent entry.1 entry.2 := by
  induction entries with
  | nil => rfl
  | cons entry rest ih => rw [clausesOf, ih, List.flatMap_cons]

theorem mem_clausesOf {clause : String × Value} {parent : String} {entries : Entries} :
    clause ∈ clausesOf parent entries ↔
      ∃ entry ∈ entries, clause ∈ clausesOfEntry parent entry.1 entry.2 := by
  rw [clausesOf_eq_flatMap, List.mem_flatMap]

theorem clausesOfEntry_operator {key : String} (hk : hasSigil key = true) (parent : String)
    (value : Value) :
    clausesOfEntry parent key value =
      if isSafe key then [(key, normalizeArgument key value)] else [] := by
  cases value <;> simp [clausesOfEntry, hk, normalizeArgument]

theorem clausesOfEntry_literal {key : String} {literal : Value} (hk : hasSigil key = false)
    (hl : literal.record? = none) (parent : String) :
    clausesOfEntry parent key literal = [(child parent key, .record [("$eq", literal)])] := by
  cases literal with
  | record => cases hl
  | _ => simp [clausesOfEntry, hk]

theorem clausesOfEntry_clauses {key : String} {nested : Entries} (hk : hasSigil key = false)
    (hn : (nested.any fun entry => hasSigil entry.1) = true) (parent : String) :
    clausesOfEntry parent key (.record nested) =
      if nested.any fun entry => isUnsafe entry.1 then []
      else [(child parent key, .record nested)] := by
  simp [clausesOfEntry, hk, hn]

theorem clausesOfEntry_nested {key : String} {nested : Entries} (hk : hasSigil key = false)
    (hn : (nested.any fun entry => hasSigil entry.1) = false) (parent : String) :
    clausesOfEntry parent key (.record nested) = clausesOf (child parent key) nested := by
  simp [clausesOfEntry, hk, hn]

mutual

theorem collect_eq_insertAll (parent : String) : ∀ (entries : List (String × Value))
    (out : Entries), collect parent entries out = insertAll (clausesOf parent entries) out
  | [], _ => rfl
  | (key, value) :: rest, out => by
    rw [collect, collectEntry_eq_insertAll parent key value out,
      collect_eq_insertAll parent rest, clausesOf, insertAll_append]

theorem collectEntry_eq_insertAll (parent key : String) : ∀ (value : Value) (out : Entries),
    collectEntry parent key value out = insertAll (clausesOfEntry parent key value) out
  | .record nested, out => by
    rw [collectEntry, clausesOfEntry]
    split
    · rw [putClause]; split <;> rfl
    · split
      · rw [putClauses]; split <;> rfl
      · exact collect_eq_insertAll (child parent key) nested out
  | .array items, out => by
    rw [collectEntry, clausesOfEntry]
    · split
      · rw [putClause]; split <;> rfl
      · rfl
    · simp
  | .undefined, out | .null, out | .bool _, out | .number _, out | .string _, out
  | .date _, out | .binary _, out | .function _, out => by
    rw [collectEntry, clausesOfEntry]
    · split
      · rw [putClause]; split <;> rfl
      · rfl
    all_goals simp

end

theorem collect_nil_eq_ofList (parent : String) (entries : Entries) :
    collect parent entries [] = Assoc.ofList (clausesOf parent entries) :=
  collect_eq_insertAll parent entries []

/-- The selector in the safe dialect holds the clauses of the selector. -/
theorem normalize_record (entries : Entries) :
    normalize (.record entries) = .record (Assoc.ofList (clausesOf "" entries)) := by
  rw [normalize, collect_nil_eq_ofList]

theorem mem_normalizeItems {items : List Value} {v : Value} :
    v ∈ normalizeItems items ↔ ∃ item ∈ items, normalize item = v := by
  induction items with
  | nil => simp [normalizeItems]
  | cons item items ih => simp [normalizeItems, ih, eq_comm]

end RecordQuery.Selector

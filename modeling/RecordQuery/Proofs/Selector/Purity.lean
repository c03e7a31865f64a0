import RecordQuery.Proofs.Pattern.Confined
import RecordQuery.Proofs.Selector.NormalForm
import RecordQuery.Proofs.Selector.Restatement

/-!
# Selectors only test

A store asks a selector whether a record is to be kept; it does not expect the record to change.
The operators of the safe dialect are predicates, all but `$type`, which is the name of a transform;
the predicate is called `$typeof`.  A selector that avoids this name, and names other operators not
even behind a dot, is a test.

* `Selector.IsTest`: the operators of the safe dialect but `$type`.
* `Selector.predicate?_eq_none_iff`: only `$type` is no predicate.
* `Selector.confined_normalize`: rewriting a selector brings in no other operators.
* `Selector.evaluate?_normalize_of_confined`: evaluation changes nothing, and no transform matters.
* `Selector.evaluate?_type`: what becomes of a record under a test of its type.
-/

namespace RecordQuery.Selector

open RecordQuery.Path (hasSigil child)
open Pattern (Confined ConfinedAt confined_record_iff confinedAt_nil_iff keyPath)
open Registry (builtins)

/-! ### Tests -/

/-- The operators of the safe dialect that test: all but one. -/
def IsTest (key : String) : Prop := isSafe key = true ∧ key ≠ "$type"

instance : DecidablePred IsTest := fun key => inferInstanceAs (Decidable (_ ∧ key ≠ "$type"))

/-- **The one safe operator without a predicate is `$type`.** -/
theorem predicate?_eq_none_iff (functions : Functions) {key : String} (h : isSafe key = true) :
    (builtins functions).predicate? key = none ↔ key = "$type" := by
  have hnames : ∀ name ∈ safeOperators, name ≠ "$type" →
      name ∈ Assoc.keys (Predicate.comparisons ++ Predicate.memberships ++ Predicate.combinations ++
        Predicate.numerics ++ Predicate.textuals ++ Predicate.forms ++ Predicate.kinds ++
          Predicate.temporals) := by decide +kernel
  constructor
  · intro hp
    by_contra hne
    have hmem := hnames key (List.contains_iff_mem.mp h) hne
    refine Assoc.get?_eq_none_iff.mp hp ?_
    show key ∈ Assoc.keys (Predicate.builtins functions)
    rw [Predicate.builtins, Assoc.keys_append, List.mem_append]
    exact Or.inl hmem
  · rintro rfl
    rfl

theorem decides_builtins (functions : Functions) : (builtins functions).Decides IsTest where
  marked := Registry.marked_builtins functions
  predicate key _ h := by
    rw [Option.isSome_iff_ne_none]
    exact fun hp => h.2 ((predicate?_eq_none_iff functions h.1).mp hp)
  consults _ _ hp := Predicate.consults_of_mem_builtins (Assoc.mem_of_get? hp)

/-! ### Rewriting -/

/-- The path below which the clauses of a record are put. -/
def parentPath (parent : String) : List String := if parent = "" then [] else keyPath parent

theorem keyPath_child_eq {parent key : String} (hp : hasSigil parent = false)
    (hk : hasSigil key = false) :
    keyPath (child parent key) = parentPath parent ++ keyPath key := by
  by_cases he : parent = ""
  · rw [parentPath, if_pos he, child, if_pos he, List.nil_append]
  · rw [parentPath, if_neg he, keyPath_child he hp hk]

variable {allowed : String → Prop}

/-- An empty key is left out of the paths below it; there stands no operator. -/
theorem confinedAt_parentPath_child {parent key : String} (hp : hasSigil parent = false)
    (hk : hasSigil key = false) {v : Value}
    (h : ConfinedAt allowed (parentPath parent ++ keyPath key) v) :
    ConfinedAt allowed (parentPath (child parent key)) v := by
  rw [← keyPath_child_eq hp hk] at h
  by_cases he : child parent key = ""
  · rw [he] at h
    rw [parentPath, if_pos he]
    have hempty : keyPath "" = [""] := by decide
    rw [hempty] at h
    exact h.tail (Or.inl (by decide))
  · rwa [parentPath, if_neg he]

theorem confinedAt_equation (ha : allowed "$eq") (literal : Value) : ∀ {path : List String},
    ConfinedAt allowed path literal → ConfinedAt allowed path (.record [("$eq", literal)]) := by
  intro path
  induction path with
  | nil =>
    intro _
    refine .nil (.record (List.forall_mem_singleton.mpr ?_))
    have hpath : keyPath "$eq" = ["$eq"] := by decide
    rw [hpath]
    refine .cons (fun _ => ha) (fun ho => ?_) (fun hc => absurd hc (by decide))
    -- `$eq` compares its argument and does not match it
    rcases ho with hs | hn
    · exact absurd hs (by decide)
    · exact absurd hn (by decide)
  | cons key path ih =>
    exact fun h => .cons_record h.allowed_head fun ho => ih (h.tail ho)

theorem confinedAt_of_mem_clausesOf (ha : allowed "$eq") : ∀ {entries : Entries} {parent : String},
    hasSigil parent = false →
      (∀ entry ∈ entries, hasSigil entry.1 = false →
        ConfinedAt allowed (parentPath parent ++ keyPath entry.1) entry.2) →
        ∀ clause ∈ clausesOf parent entries, hasSigil clause.1 = false →
          ConfinedAt allowed (keyPath clause.1) clause.2 := by
  intro entries
  induction entries using Value.induct_entries with
  | step entries ih =>
    intro parent hp h clause hc hs
    obtain ⟨⟨key, value⟩, he, hc⟩ := mem_clausesOf.mp hc
    by_cases hk : hasSigil key = true
    · -- an operator is a clause under its own name
      rw [clausesOfEntry_operator hk] at hc
      split at hc
      · obtain rfl := List.mem_singleton.mp hc
        rw [hk] at hs
        cases hs
      · cases hc
    · rw [Bool.not_eq_true] at hk
      have hat := h _ he hk
      have hpath := keyPath_child_eq hp hk
      cases hr : value.record? with
      | none =>
        rw [clausesOfEntry_literal hk hr] at hc
        obtain rfl := List.mem_singleton.mp hc
        exact hpath ▸ confinedAt_equation ha value hat
      | some nested =>
        obtain rfl := Value.record?_eq_some_iff.mp hr
        cases hn : nested.any fun entry => hasSigil entry.1 with
        | true =>
          rw [clausesOfEntry_clauses hk hn] at hc
          split at hc
          · cases hc
          · obtain rfl := List.mem_singleton.mp hc
            exact hpath ▸ hat
        | false =>
          rw [clausesOfEntry_nested hk hn] at hc
          have hbelow := confinedAt_parentPath_child hp hk hat
          exact ih key nested he (hasSigil_child hp hk)
            (fun entry hm _ => hbelow.entry hm) clause hc hs

/-- **Rewriting a selector brings in no operators but `$eq`.** -/
theorem confined_normalize (ha : allowed "$eq") : ∀ {selector : Value},
    Confined allowed selector → Confined allowed (normalize selector) := by
  intro selector
  induction selector using Selector.induct with
  | literal v hv =>
    intro h
    cases v with
    | record => cases hv
    | _ => exact h
  | record entries ih =>
    intro h
    have hentry := confined_record_iff.mp h
    rw [normalize_record]
    refine .record fun clause hc => ?_
    have hclause := Assoc.mem_of_mem_ofList hc
    by_cases hs : hasSigil clause.1 = true
    · obtain ⟨-, argument, hm, hv⟩ := mem_clausesOf_operator (by decide) hclause hs
      have hat := hentry _ hm
      rw [Pattern.keyPath_of_hasSigil hs] at hat ⊢
      rw [hv]
      refine .cons hat.allowed_head (fun ho => ?_) fun hcomb _ items hi item hmem => ?_
      · -- an argument that is one pattern is copied
        rcases ho with hno | hn
        · rw [hs] at hno; cases hno
        · rw [normalizeArgument_of_not_mem (not_mem_combinators_of_mem_nesters hn)]
          exact hat.tail (Or.inr hn)
      · -- the items of a combinator are rewritten
        cases argument with
        | array given =>
          rw [normalizeArgument_array hcomb] at hi
          obtain rfl := Value.array.inj hi
          obtain ⟨origin, ho, rfl⟩ := mem_normalizeItems.mp hmem
          exact ih clause.1 given origin hm ho (hat.item hcomb ho)
        | _ => cases hi
    · rw [Bool.not_eq_true] at hs
      have hroot : parentPath "" = [] := if_pos rfl
      refine confinedAt_of_mem_clausesOf ha (by decide) (fun entry he _ => ?_) clause hclause hs
      rw [hroot]
      exact hentry entry he

/-! ### Evaluation -/

/-- **A selector whose operators test is a test.**  Evaluation of its normal form rejects a record
or hands it back as it is, without edits; it accepts the records that satisfy the predicates and are
equal to the literals; and it would do the same whatever the transforms of the registry were. -/
theorem evaluate?_normalize_of_confined (functions : Functions) {selector : Value}
    (h : Confined IsTest selector) (record : Value) :
    (∀ found, (builtins functions).evaluate? record (normalize selector) = some found →
      found = ⟨record, []⟩) ∧
    (accepts (builtins functions) selector record = true ↔
      (builtins functions).Satisfied record (normalize selector)) ∧
    ∀ other : Registry, other.predicates = Predicate.builtins functions → other.Marked →
      other.evaluate? record (normalize selector) =
        (builtins functions).evaluate? record (normalize selector) := by
  have hconfined : Confined IsTest (normalize selector) := confined_normalize (by decide) h
  have hfree := Registry.transformFree_of_confined (decides_builtins functions) hconfined
  refine ⟨fun found hf => ?_, Registry.accepts_iff_satisfied hfree, fun other he hm => ?_⟩
  · exact ((Registry.evaluate?_eq_some_iff hfree found).mp hf).2
  · exact Registry.evaluate?_eq_of_confined (decides_builtins functions) hm he hconfined record

/-- An alternative with an equation at the end of a path, on a record that it accepts; and the
registry without transforms. -/
theorem evaluate?_normalize_of_confined_alternative :
    let functions : Functions := fun _ _ => .null
    let selector : Value := .record [("$or", .array [.record [("a.b", .string "x")]])]
    let record : Value := .record [("a", .record [("b", .string "x")])]
    Confined IsTest selector ∧ accepts (builtins functions) selector record = true ∧
      (∀ found, (builtins functions).evaluate? record (normalize selector) = some found →
        found = ⟨record, []⟩) ∧
      (⟨Predicate.builtins functions, []⟩ : Registry).evaluate? record (normalize selector) =
        (builtins functions).evaluate? record (normalize selector) := by
  intro functions selector record
  have hequation : Confined IsTest (.record [("a.b", .string "x")]) := by
    refine .record (List.forall_mem_singleton.mpr ?_)
    rw [show keyPath "a.b" = ["a", "b"] from by decide]
    refine .cons (by decide) (fun _ => .cons (by decide) (fun _ => .nil (.literal rfl)) ?_) ?_
    · exact fun hc => absurd hc (by decide)
    · exact fun hc => absurd hc (by decide)
  have hconfined : Confined IsTest selector := by
    refine .record (List.forall_mem_singleton.mpr ?_)
    rw [show keyPath "$or" = ["$or"] from by decide]
    refine .cons (by decide) (fun ho => ?_) fun _ _ items hi item hm => ?_
    · exact absurd ho (by decide)
    · obtain rfl := Value.array.inj hi
      exact List.mem_singleton.mp hm ▸ hequation
  obtain ⟨hpure, -, hother⟩ := evaluate?_normalize_of_confined functions hconfined record
  refine ⟨hconfined, ?_, hpure, hother _ rfl ?_⟩
  · have hclause : (builtins functions).accepts record
        (.record [("a.b", .record [("$eq", .string "x")])]) = true := by
      have hfree := Registry.transformFree_of_confined (decides_builtins functions)
        (confined_normalize (by decide) hequation)
      refine (Registry.accepts_iff_satisfied hfree).mpr ?_
      refine List.forall_mem_singleton.mpr (.nested rfl rfl ?_)
      refine List.forall_mem_singleton.mpr (.nested rfl rfl ?_)
      exact List.forall_mem_singleton.mpr (.test rfl rfl)
    have hor := @Registry.accepts_entries (builtins functions) functions (fun _ _ h => h)
      (.combination .or [.clause [("a.b", .record [("$eq", .string "x")])]]) record
    simp only [Formula.holds, Formula.results, Combinator.combine, hclause] at hor
    exact hor
  · exact fun key hk => ⟨(Registry.marked_builtins functions key hk).1, rfl⟩

/-- **A test of the type of a field is none.**  Every record is accepted, with the name of the type
in the place of the field, or under the name that the argument gives it. -/
theorem evaluate?_type (functions : Functions) {key : String} (hs : hasSigil key = false)
    (hd : Path.isDotted key = false) (argument record : Value) :
    (builtins functions).evaluate? record
      (normalize (.record [(key, .record [("$type", argument)])])) =
      let target := (alias? argument).getD key
      let write := Action.set (.string (record.field key).typeName)
      some ⟨write.applyAt target record, [⟨[target], write⟩]⟩ := by
  have hnormal : normalize (.record [(key, .record [("$type", argument)])]) =
      .record [(key, .record [("$type", argument)])] := by
    refine normalize_record_eq_self (by simp) (List.forall_mem_singleton.mpr ?_)
    refine clausesOfEntry_eq_self (fun h => ?_) (fun h => ?_) fun _ => ?_
    · rw [hs] at h; cases h
    · rw [hs] at h; cases h
    · exact ⟨_, rfl, ⟨_, List.mem_cons_self, (by decide : hasSigil "$type" = true)⟩,
        List.forall_mem_singleton.mpr fun _ => (by decide : isSafe "$type" = true)⟩
  rw [hnormal, Registry.evaluate?_transform (Registry.marked_builtins functions) hs hd
    (by decide) rfl rfl]
  rfl

/-- A boolean passes as a string, and what is left of it is the name of its type. -/
theorem accepts_type_of_boolean :
    let functions : Functions := fun _ _ => .null
    let selector : Value := .record [("a", .record [("$type", .string "string")])]
    let record : Value := .record [("a", .bool true)]
    accepts (builtins functions) selector record = true ∧
      (builtins functions).evaluate? record (normalize selector) =
        some ⟨.record [("a", .string "boolean")], [⟨["a"], .set (.string "boolean")⟩]⟩ := by
  intro functions selector record
  have hevaluation := evaluate?_type functions (by decide : hasSigil "a" = false)
    (by decide) (.string "string") record
  refine ⟨?_, hevaluation⟩
  rw [accepts, Registry.accepts, hevaluation]
  rfl

end RecordQuery.Selector

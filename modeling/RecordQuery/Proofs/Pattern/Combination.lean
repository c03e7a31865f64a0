import RecordQuery.Proofs.Pattern.Concatenation
import RecordQuery.Proofs.Pattern.Nesting

/-!
# Combinations of patterns are Boolean

`$and`, `$or`, `$nor` and `$not` match their patterns against the subject as if it were a root.  At
the root they are the Boolean operations, whatever they combine and however deeply they are nested.
Under a key they are the Boolean operations on what the field would be as a root; and this is the
same as moving the key inward, unless a pattern asks where its subject stands.

* `Formula`: Boolean combinations of patterns; `Formula.entries` writes them with the operators, and
  `Formula.holds` is their truth.
* `Predicate.placeless_of_mem_builtins`: of the builtin predicates only `$test` asks for its place.
* `Registry.accepts_entries`: combinations at the root.
* `Registry.accepts_atKey`: a placeless pattern under a key.
* `Registry.accepts_atKey_of_compound`: a combination under a key, whatever its clauses ask for.
* `Registry.accepts_combination`: combinations are Boolean at the root and in place.
-/

namespace RecordQuery

open RecordQuery.Path (hasSigil)

/-! ### Formulas -/

/-- The operators that combine the results of several patterns. -/
inductive Combinator where
  | and
  | or
  | nor
deriving DecidableEq, Repr

namespace Combinator

def name : Combinator → String
  | and => "$and"
  | or => "$or"
  | nor => "$nor"

def combine : Combinator → List Bool → Bool
  | and, results => results.all id
  | or, results => results.any id
  | nor, results => !results.any id

theorem hasSigil_name (combinator : Combinator) : hasSigil combinator.name = true := by
  cases combinator <;> rfl

end Combinator

/-- A Boolean combination of patterns. -/
inductive Formula where
  | clause (entries : Entries)
  | combination (combinator : Combinator) (parts : List Formula)
  | negation (part : Formula)

namespace Formula

mutual

/-- The pattern that the formula is written as. -/
def entries : Formula → Entries
  | clause entries => entries
  | combination combinator parts => [(combinator.name, .array (patterns parts))]
  | negation part => [("$not", .record part.entries)]

/-- The patterns that formulas are written as. -/
def patterns : List Formula → List Value
  | [] => []
  | part :: parts => .record part.entries :: patterns parts

end

mutual

/-- Whether the formula is true, when it is known which of its clauses are. -/
def holds (test : Entries → Bool) : Formula → Bool
  | clause entries => test entries
  | combination combinator parts => combinator.combine (results test parts)
  | negation part => !part.holds test

/-- Which of the formulas are true. -/
def results (test : Entries → Bool) : List Formula → List Bool
  | [] => []
  | part :: parts => part.holds test :: results test parts

end

mutual

/-- The patterns that the formula combines. -/
def clauses : Formula → List Entries
  | clause entries => [entries]
  | combination _ parts => clausesOfParts parts
  | negation part => part.clauses

/-- The patterns that the formulas combine. -/
def clausesOfParts : List Formula → List Entries
  | [] => []
  | part :: parts => part.clauses ++ clausesOfParts parts

end

/-- Induction over formulas, with the hypothesis for all parts of a combination. -/
theorem induct {motive : Formula → Prop} (clause : ∀ entries, motive (.clause entries))
    (combination : ∀ combinator parts, (∀ part ∈ parts, motive part) →
      motive (.combination combinator parts))
    (negation : ∀ part, motive part → motive (.negation part)) : ∀ formula, motive formula
  | .clause entries => clause entries
  | .combination combinator parts => combination combinator parts fun part _ =>
    induct clause combination negation part
  | .negation part => negation part (induct clause combination negation part)
termination_by formula => sizeOf formula

theorem patterns_eq_map (parts : List Formula) :
    patterns parts = parts.map fun part => .record part.entries := by
  induction parts with
  | nil => rfl
  | cons part parts ih => rw [patterns, ih, List.map_cons]

theorem results_eq_map (test : Entries → Bool) (parts : List Formula) :
    results test parts = parts.map fun part => part.holds test := by
  induction parts with
  | nil => rfl
  | cons part parts ih => rw [results, ih, List.map_cons]

theorem mem_clausesOfParts {clause : Entries} {parts : List Formula} {part : Formula}
    (hp : part ∈ parts) (hc : clause ∈ part.clauses) : clause ∈ clausesOfParts parts := by
  induction parts with
  | nil => cases hp
  | cons first parts ih =>
    rw [clausesOfParts, List.mem_append]
    rcases List.mem_cons.mp hp with rfl | hp
    · exact Or.inl hc
    · exact Or.inr (ih hp)

theorem holds_congr {test other : Entries → Bool} {formula : Formula}
    (h : ∀ clause ∈ formula.clauses, test clause = other clause) :
    formula.holds test = formula.holds other := by
  induction formula using Formula.induct with
  | clause entries => exact h entries List.mem_cons_self
  | combination combinator parts ih =>
    rw [holds, holds, results_eq_map, results_eq_map]
    congr 1
    exact List.map_congr_left fun part hp =>
      ih part hp fun clause hc => h clause (mem_clausesOfParts hp hc)
  | negation part ih => rw [holds, holds, ih h]

end Formula

/-- The field that a path of keys leads to. -/
def Value.along (path : List String) (data : Value) : Value :=
  path.foldl (fun subject key => subject.field key) data

/-! ### At the root -/

namespace Predicate

/-- The predicate of a combinator. -/
def ofCombinator (combinator : Combinator) : Predicate :=
  ⟨.typed, fun a b around => (matchEach? a b around).any combinator.combine⟩

/-- The predicate of `$not`, as far as it can be told from its tests. -/
structure IsNegation (predicate : Predicate) : Prop where
  test : ∀ subject argument around,
    predicate.test subject argument around = !around.accepts subject argument (Nat.le_refl _)

@[simp] theorem placeless_flag (test : Value → Bool) : (flag test).Placeless := fun _ _ _ _ _ => rfl

@[simp] theorem placeless_typed (test : (subject argument : Value) → Bool) :
    (typed test).Placeless :=
  fun _ _ _ _ _ => rfl

@[simp] theorem placeless_ofCombinator (combinator : Combinator) :
    (ofCombinator combinator).Placeless := by
  intro subject argument around other h
  cases argument with
  | array items => simp [ofCombinator, matchEach?, h]
  | _ => rfl

theorem IsNegation.placeless {predicate : Predicate} (h : predicate.IsNegation) :
    predicate.Placeless := by
  intro subject argument around other hsame
  rw [h.test, h.test, hsame]

theorem placeless_of_mem_combinations {entry : String × Predicate} (h : entry ∈ combinations) :
    entry.2.Placeless := by
  rw [combinations] at h
  simp only [List.mem_cons, List.not_mem_nil, or_false] at h
  rcases h with rfl | rfl | rfl | rfl | rfl
  · intro subject argument around other hsame
    simp [hsame]
  · exact placeless_ofCombinator .and
  · exact placeless_ofCombinator .or
  · exact placeless_ofCombinator .nor
  · exact IsNegation.placeless ⟨fun _ _ _ => rfl⟩

/-- Of the builtin predicates only `$test` asks where its subject stands. -/
theorem placeless_of_mem_builtins {functions : Functions} {entry : String × Predicate}
    (h : entry ∈ builtins functions) (hne : entry.1 ≠ "$test") : entry.2.Placeless := by
  have hcombinations : ∀ entry ∈ combinations, entry.2.Placeless :=
    fun _ => placeless_of_mem_combinations
  have htyped : ∀ entry ∈ comparisons ++ memberships ++ numerics ++ textuals ++ forms ++ kinds ++
      temporals, entry.2.Placeless := by
    simp [comparisons, memberships, numerics, textuals, forms, kinds, temporals, ofArrays, ofNumber,
      ofNumberAndArray, ofTexts, ofForm]
  rw [builtins, List.mem_append] at h
  rcases h with h | h
  · have hclosed : ∀ entry ∈ comparisons ++ memberships ++ combinations ++ numerics ++ textuals ++
        forms ++ kinds ++ temporals, entry.2.Placeless := by
      simp only [List.forall_mem_append] at htyped ⊢
      tauto
    exact hclosed entry h
  · obtain rfl := List.mem_singleton.mp h
    exact absurd rfl hne

end Predicate

namespace Registry

variable {registry : Registry} {functions : Functions}

/-- All predicates of the base are there. -/
def Extends (registry base : Registry) : Prop :=
  ∀ name predicate, base.predicate? name = some predicate →
    registry.predicate? name = some predicate

theorem predicate?_combinator (h : registry.Extends (builtins functions))
    (combinator : Combinator) :
    registry.predicate? combinator.name = some (.ofCombinator combinator) := by
  refine h _ _ ?_
  cases combinator <;> rfl

theorem exists_predicate?_not (h : registry.Extends (builtins functions)) :
    ∃ predicate, registry.predicate? "$not" = some predicate ∧ predicate.IsNegation :=
  ⟨_, h _ _ rfl, ⟨fun _ _ _ => rfl⟩⟩

theorem isSome_run_of_predicate {key : String} {predicate : Predicate}
    (h : registry.predicate? key = some predicate) (data : Value) (scope : Option Scope)
    (argument : Value) :
    (registry.run data scope [(key, argument)]).isSome = (predicate.ignores argument ||
      predicate.test data argument (registry.surroundings scope argument)) := by
  rw [run_cons, step_of_predicate h]
  cases predicate.ignores argument ||
    predicate.test data argument (registry.surroundings scope argument) <;> simp

theorem accepts_of_predicate {key : String} (hk : hasSigil key = true) {predicate : Predicate}
    (h : registry.predicate? key = some predicate) {argument : Value}
    (ht : argument.isTruthy = true)
    (data : Value) :
    registry.accepts data (.record [(key, argument)]) =
      predicate.test data argument (registry.surroundings none argument) := by
  have hkept : predicate.ignores argument = false := by
    rw [Predicate.ignores, ht, Bool.not_true, Bool.and_false]
  rw [accepts_record, Pattern.expand_singleton (Pattern.isChain_eq_false_of_hasSigil hk),
    isSome_run_of_predicate h, hkept, Bool.false_or]

/-- **At the root a combination is Boolean**, whatever its clauses are. -/
theorem accepts_entries (h : registry.Extends (builtins functions)) (formula : Formula) :
    ∀ data, registry.accepts data (.record formula.entries) =
      formula.holds fun clause => registry.accepts data (.record clause) := by
  induction formula using Formula.induct with
  | clause entries => exact fun _ => rfl
  | combination combinator parts ih =>
    intro data
    rw [Formula.entries,
      accepts_of_predicate combinator.hasSigil_name (predicate?_combinator h combinator) rfl]
    show (Predicate.matchEach? data (.array (Formula.patterns parts))
      (registry.surroundings none (.array (Formula.patterns parts)))).any combinator.combine = _
    rw [matchEach?_array, Option.any_some, Formula.holds, Formula.results_eq_map,
      Formula.patterns_eq_map, List.map_map]
    congr 1
    exact List.map_congr_left fun part hp => ih part hp data
  | negation part ih =>
    intro data
    obtain ⟨predicate, hp, hnot⟩ := exists_predicate?_not h
    rw [Formula.entries, accepts_of_predicate rfl hp rfl, hnot.test]
    show (!registry.accepts data (.record part.entries)) = _
    rw [ih, Formula.holds]

/-! ### Under a key -/

/-- No operator of the pattern asks where the subject stands. -/
def PlacelessPattern (registry : Registry) (pattern : Entries) : Prop :=
  ∀ entry ∈ Pattern.expand pattern, registry.Placeless entry.1

theorem isSome_run_nested {key : String} (hkey : registry.isOperator key = false)
    (nested : Entries) (data : Value) (scope : Option Scope) :
    (registry.run data scope [(key, .record nested)]).isSome =
      (registry.run (data.field key) (some ⟨key, data⟩) (Pattern.expand nested)).isSome := by
  obtain ⟨hp, ht⟩ := isOperator_eq_false_iff.mp hkey
  rw [run_cons, step_of_record hp ht]
  cases registry.run (data.field key) (some ⟨key, data⟩) (Pattern.expand nested) <;> simp

/-- What stands at the end of a path is tested on the holder of the field there. -/
theorem isSome_run_mergeAt (value : Value) : ∀ {path : List String}, path ≠ [] →
    (∀ key ∈ path, registry.isOperator key = false) →
      (∀ key ∈ path, Pattern.keyPath key = [key]) → ∀ data scope, ∃ holder place, ∃ key ∈ path,
        data.along path = holder.field key ∧
          (registry.run data scope (Pattern.mergeAt [] value path)).isSome =
            (registry.run holder place [(key, value)]).isSome := by
  intro path
  induction path with
  | nil => intro h; exact absurd rfl h
  | cons key path ih =>
    intro _ hkeys hsingle data scope
    rw [List.forall_mem_cons] at hkeys hsingle
    cases path with
    | nil =>
      rw [Pattern.mergeAt, Pattern.mergeLeaf_nil]
      exact ⟨data, scope, key, List.mem_cons_self, rfl, rfl⟩
    | cons next path =>
      have hne : next :: path ≠ [] := List.cons_ne_nil _ _
      obtain ⟨holder, place, last, hlast, halong, hrun⟩ :=
        ih hne hkeys.2 hsingle.2 (data.field key) (some ⟨key, data⟩)
      refine ⟨holder, place, last, List.mem_cons_of_mem _ hlast, halong, ?_⟩
      rw [Pattern.mergeAt_nil_cons_cons, isSome_run_nested hkeys.1,
        Pattern.expand_mergeAt_nil _ hne hsingle.2, hrun]

/-- **A placeless pattern under a key tests the field as if it were a root.** -/
theorem accepts_atKey {key : String}
    (hkey : ∀ segment ∈ Pattern.keyPath key, registry.isOperator segment = false)
    {pattern : Entries} (hpattern : registry.PlacelessPattern pattern) (data : Value) :
    registry.accepts data (.record [(key, .record pattern)]) =
      registry.accepts (data.along (Pattern.keyPath key)) (.record pattern) := by
  obtain ⟨holder, place, last, hlast, halong, hrun⟩ := isSome_run_mergeAt (.record pattern)
    (Pattern.keyPath_ne_nil key) hkey (fun _ => Pattern.keyPath_of_mem) data none
  rw [accepts_record, accepts_record, Pattern.expand_singleton_eq, hrun,
    isSome_run_nested (hkey last hlast), ← halong, run_eq_of_scope _ none hpattern]

theorem placelessPattern_singleton {key : String} (hk : hasSigil key = true) {predicate : Predicate}
    (hp : registry.predicate? key = some predicate) (h : predicate.Placeless) (argument : Value) :
    registry.PlacelessPattern [(key, argument)] := by
  rw [PlacelessPattern, Pattern.expand_singleton (Pattern.isChain_eq_false_of_hasSigil hk),
    List.forall_mem_singleton]
  exact placeless_of_predicate hp h

theorem placelessPattern_of_compound (h : registry.Extends (builtins functions)) {formula : Formula}
    (hf : ∀ clause, formula ≠ .clause clause) : registry.PlacelessPattern formula.entries := by
  cases formula with
  | clause entries => exact absurd rfl (hf entries)
  | combination combinator parts =>
    exact placelessPattern_singleton combinator.hasSigil_name (predicate?_combinator h combinator)
      (Predicate.placeless_ofCombinator combinator) _
  | negation part =>
    obtain ⟨predicate, hp, hnot⟩ := exists_predicate?_not h
    exact placelessPattern_singleton rfl hp hnot.placeless _

/-- **Under a key the clauses of a combination are matched as roots.** -/
theorem accepts_atKey_of_compound (h : registry.Extends (builtins functions)) {formula : Formula}
    (hf : ∀ clause, formula ≠ .clause clause) {key : String}
    (hkey : ∀ segment ∈ Pattern.keyPath key, registry.isOperator segment = false) (data : Value) :
    registry.accepts data (.record [(key, .record formula.entries)]) =
      formula.holds fun clause =>
        registry.accepts (data.along (Pattern.keyPath key)) (.record clause) := by
  rw [accepts_atKey hkey (placelessPattern_of_compound h hf), accepts_entries h]

/-- **Combinations are the Boolean operations in place.**  At the root a combination holds as its
clauses do; under a key it holds as its clauses do under the key, if they do not ask where their
subject stands. -/
theorem accepts_combination (h : registry.Extends (builtins functions)) (formula : Formula)
    (data : Value) :
    registry.accepts data (.record formula.entries) =
        formula.holds (fun clause => registry.accepts data (.record clause)) ∧
      ∀ key, (∀ segment ∈ Pattern.keyPath key, registry.isOperator segment = false) →
        (∀ clause ∈ formula.clauses, registry.PlacelessPattern clause) →
          registry.accepts data (.record [(key, .record formula.entries)]) =
            formula.holds fun clause =>
              registry.accepts data (.record [(key, .record clause)]) := by
  refine ⟨accepts_entries h formula data, fun key hkey hclauses => ?_⟩
  by_cases hf : ∃ clause, formula = .clause clause
  · obtain ⟨clause, rfl⟩ := hf
    rfl
  · rw [not_exists] at hf
    rw [accepts_atKey_of_compound h hf hkey]
    exact Formula.holds_congr fun clause hc => (accepts_atKey hkey (hclauses clause hc) data).symm

/-- A field is found in a record that stands under a key, also by the clauses of a combination. -/
theorem accepts_combination_placed :
    let base := builtins fun _ _ => .undefined
    let registry : Registry := { base with
      predicates := Assoc.insert "$placed" ⟨.flagOnly, fun _ _ around => around.property.isSome⟩
        base.predicates }
    let formula : Formula := .combination .and
      [.clause [("b", .record [("$placed", .bool true)])], .negation (.clause [("c", .null)])]
    let data : Value := .record [("k", .record [("b", .string "x"), ("c", .string "y")])]
    registry.Extends base ∧
      registry.accepts data (.record [("k", .record formula.entries)]) = true := by
  intro base registry formula data
  have hextends : registry.Extends base := by
    intro name predicate hp
    have hne : "$placed" ≠ name := by
      rintro rfl
      cases hp
    show Assoc.get? name (Assoc.insert "$placed" _ base.predicates) = some predicate
    rw [Assoc.get?_insert_of_ne hne]
    exact hp
  have hkey : ∀ segment ∈ Pattern.keyPath "k", registry.isOperator segment = false := by
    have hpath : Pattern.keyPath "k" = ["k"] := by rfl
    rw [hpath, List.forall_mem_singleton]
    rfl
  have hb : Pattern.expand [("b", .record [("$placed", .bool true)])] =
      [("b", .record [("$placed", .bool true)])] := by rfl
  have hc : Pattern.expand [("c", .null)] = [("c", .null)] := by rfl
  have hclauses : ∀ clause ∈ formula.clauses, registry.PlacelessPattern clause := by
    have hlist : formula.clauses =
        [[("b", .record [("$placed", .bool true)])], [("c", .null)]] := by rfl
    rw [hlist, List.forall_mem_cons, List.forall_mem_singleton, PlacelessPattern, PlacelessPattern,
      hb, hc, List.forall_mem_singleton, List.forall_mem_singleton]
    exact ⟨placeless_of_isOperator_eq_false rfl, placeless_of_isOperator_eq_false rfl⟩
  refine ⟨hextends, ?_⟩
  rw [(accepts_combination hextends formula data).2 "k" hkey hclauses]
  have hk : ∀ nested, Pattern.expand [("k", .record nested)] = [("k", .record nested)] :=
    fun _ => Pattern.expand_singleton (by decide) _
  have hop : Pattern.expand [("$placed", .bool true)] = [("$placed", .bool true)] := by rfl
  have hfirst : registry.accepts data
      (.record [("k", .record [("b", .record [("$placed", .bool true)])])]) = true := by
    rw [accepts_record, hk, isSome_run_nested rfl, hb, isSome_run_nested rfl, hop,
      isSome_run_of_predicate rfl]
    rfl
  have hsecond : registry.accepts data (.record [("k", .record [("c", .null)])]) = false := by
    rw [accepts_record, hk, isSome_run_nested rfl, hc, run_cons, step_of_literal rfl rfl rfl]
    rfl
  simp [formula, Formula.holds, Formula.results, Combinator.combine, hfirst, hsecond]

/-- A test that returns the key under which it finds its subject fails in a conjunction of its
own. -/
theorem accepts_combination_unplaced :
    let registry := builtins fun _ arguments =>
      ((arguments[1]?).bind fun around => around.get? "property").getD .undefined
    let test : Entries := [("$test", .function "property")]
    let formula : Formula := .combination .and [.clause test]
    let data : Value := .record [("a", .string "x")]
    registry.TransformFree (.record test) ∧ registry.isOperator "a" = false ∧
      ¬ registry.accepts data (.record [("a", .record formula.entries)]) =
        formula.holds fun clause => registry.accepts data (.record [("a", .record clause)]) := by
  intro registry test formula data
  have htest : Pattern.expand test = test := by rfl
  have hfree : registry.TransformFree (.record test) := by
    rintro _ ⟨⟩
    rw [htest]
    exact List.forall_mem_singleton.mpr (.predicate rfl)
  have hpath : Pattern.keyPath "a" = ["a"] := by rfl
  refine ⟨hfree, rfl, ?_⟩
  have hkey : ∀ segment ∈ Pattern.keyPath "a", registry.isOperator segment = false := by
    rw [hpath]
    exact List.forall_mem_singleton.mpr rfl
  have hcompound : ∀ clause, formula ≠ .clause clause := fun clause => by simp [formula]
  have hroot : registry.accepts (data.along ["a"]) (.record test) = false := by
    rw [accepts_of_predicate rfl rfl rfl]
    rfl
  have hfield : registry.accepts data (.record [("a", .record test)]) = true := by
    rw [accepts_record, Pattern.expand_singleton (by decide), isSome_run_nested rfl, htest,
      isSome_run_of_predicate rfl]
    rfl
  rw [accepts_atKey_of_compound (fun _ _ h => h) hcompound hkey, hpath]
  show ¬ (registry.accepts (data.along ["a"]) (.record test) && true) =
    (registry.accepts data (.record [("a", .record test)]) && true)
  rw [hroot, hfield]
  decide

end Registry

end RecordQuery

import RecordQuery.Proofs.Pattern.Combination
import RecordQuery.Proofs.Selector.Closure

/-!
# Patterns with some operators only

A key of a pattern may name an operator behind a dot, and patterns stand in the arguments of some
operators.  Where evaluation comes to an operator, in one of these places, is told here; so that a
condition on the operators of a pattern holds of all that evaluation comes to.

* `Pattern.Opens`: the keys whose argument is a pattern itself.
* `Pattern.Confined`: all operators of a pattern are among those allowed.
* `Pattern.confined_expand`: writing dotted keys out brings in no others.
* `Predicate.Consults`: a predicate matches no patterns but those in its argument.
* `Predicate.consults_of_mem_builtins`: the builtin predicates do not.
* `Registry.transformFree_of_confined`: if all allowed operators are predicates, the pattern only
  tests.
* `Registry.evaluate?_eq_of_confined`: then the transforms of the registry do not matter at all.
-/

namespace RecordQuery

open RecordQuery.Path (hasSigil)
open Selector (combinators nesters hasSigil_of_mem_combinators hasSigil_of_mem_nesters)

namespace Pattern

/-! ### Operators of a pattern -/

/-- Under a field stands a pattern, and so it does under an operator that nests one. -/
def Opens (key : String) : Prop := hasSigil key = false ∨ key ∈ nesters

instance : DecidablePred Opens := fun key => inferInstanceAs (Decidable (_ ∨ key ∈ nesters))

mutual

/-- All operators that evaluation can come to in the pattern are allowed. -/
inductive Confined (allowed : String → Prop) : Value → Prop
  | literal {v} : v.record? = none → Confined allowed v
  | record {entries} : (∀ entry ∈ entries, ConfinedAt allowed (keyPath entry.1) entry.2) →
      Confined allowed (.record entries)

/-- All operators are allowed that evaluation can come to along a path and in the value at its
end. -/
inductive ConfinedAt (allowed : String → Prop) : List String → Value → Prop
  | nil {v} : Confined allowed v → ConfinedAt allowed [] v
  | cons {key path v} : (hasSigil key = true → allowed key) →
      (Opens key → ConfinedAt allowed path v) →
      (key ∈ combinators → path = [] → ∀ items, v = .array items → ∀ item ∈ items,
        Confined allowed item) → ConfinedAt allowed (key :: path) v

end

variable {allowed : String → Prop}

theorem confined_record_iff {entries : Entries} :
    Confined allowed (.record entries) ↔
      ∀ entry ∈ entries, ConfinedAt allowed (keyPath entry.1) entry.2 := by
  constructor
  · intro h
    cases h with
    | literal hr => cases hr
    | record h => exact h
  · exact .record

theorem confinedAt_nil_iff {v : Value} : ConfinedAt allowed [] v ↔ Confined allowed v := by
  constructor
  · intro h
    cases h with
    | nil h => exact h
  · exact .nil

namespace ConfinedAt

theorem allowed_head {key : String} {path : List String} {v : Value}
    (h : ConfinedAt allowed (key :: path) v) (hs : hasSigil key = true) : allowed key := by
  cases h with
  | cons ha => exact ha hs

theorem tail {key : String} {path : List String} {v : Value}
    (h : ConfinedAt allowed (key :: path) v) (ho : Opens key) : ConfinedAt allowed path v := by
  cases h with
  | cons _ ht => exact ht ho

theorem item {key : String} {items : List Value} {item : Value}
    (h : ConfinedAt allowed [key] (.array items)) (hc : key ∈ combinators) (hi : item ∈ items) :
    Confined allowed item := by
  cases h with
  | cons _ _ hitems => exact hitems hc rfl items rfl item hi

theorem cons_record {key : String} {path : List String} {entries : Entries}
    (ha : hasSigil key = true → allowed key)
    (ht : Opens key → ConfinedAt allowed path (.record entries)) :
    ConfinedAt allowed (key :: path) (.record entries) := by
  refine .cons ha ht fun _ _ items hv => ?_
  cases hv

theorem entry {nested : Entries} {entry : String × Value} (he : entry ∈ nested) :
    ∀ {path : List String}, ConfinedAt allowed path (.record nested) →
      ConfinedAt allowed (path ++ keyPath entry.1) entry.2 := by
  intro path
  induction path with
  | nil => exact fun h => confined_record_iff.mp (confinedAt_nil_iff.mp h) entry he
  | cons key path ih =>
    intro h
    refine .cons h.allowed_head (fun ho => ih (h.tail ho)) fun _ hn => ?_
    exact absurd (List.append_eq_nil_iff.mp hn).2 (keyPath_ne_nil entry.1)

/-- A record that has no operators but those of two others may stand where both do. -/
theorem merged {first second merged : Entries}
    (hm : Confined allowed (.record first) → Confined allowed (.record second) →
      Confined allowed (.record merged)) :
    ∀ {path : List String}, ConfinedAt allowed path (.record first) →
      ConfinedAt allowed path (.record second) → ConfinedAt allowed path (.record merged) := by
  intro path
  induction path with
  | nil =>
    intro h₁ h₂
    exact .nil (hm (confinedAt_nil_iff.mp h₁) (confinedAt_nil_iff.mp h₂))
  | cons key path ih =>
    intro h₁ h₂
    exact cons_record h₁.allowed_head fun ho => ih (h₁.tail ho) (h₂.tail ho)

end ConfinedAt

/-! ### Dotted keys written out -/

theorem Confined.insert {entries : Entries} {key : String} {value : Value}
    (h : Confined allowed (.record entries)) (hv : ConfinedAt allowed (keyPath key) value) :
    Confined allowed (.record (Assoc.insert key value entries)) := by
  refine .record fun entry he => ?_
  rcases Assoc.mem_insert he with rfl | hm
  · exact hv
  · exact confined_record_iff.mp h entry hm

theorem Confined.of_get? {entries : Entries} {key : String} {value : Value}
    (h : Confined allowed (.record entries)) (hg : Assoc.get? key entries = some value) :
    ConfinedAt allowed (keyPath key) value :=
  confined_record_iff.mp h _ (Assoc.mem_of_get? hg)

theorem Confined.inner {entries : Entries} {key : String} (h : Confined allowed (.record entries))
    (hk : keyPath key = [key]) (ho : Opens key) :
    Confined allowed (.record (Entries.inner key entries)) := by
  unfold Entries.inner
  split
  · next nested hg =>
    have hat := h.of_get? hg
    rw [hk] at hat
    exact confinedAt_nil_iff.mp (hat.tail ho)
  · exact .record (by simp)

mutual

theorem confined_mergeLeaf {target : Entries} (ht : Confined allowed (.record target))
    (key : String) : ∀ value : Value, ConfinedAt allowed (keyPath key) value →
      Confined allowed (.record (mergeLeaf target key value))
  | .record incoming => fun hv => by
    rw [mergeLeaf]
    split
    · next existing hg =>
      exact ht.insert ((ht.of_get? hg).merged (fun h₁ h₂ => confined_mergeAll h₁ incoming h₂) hv)
    · exact ht.insert hv
  | .undefined => fun hv => by rw [mergeLeaf]; exact ht.insert hv; simp
  | .null => fun hv => by rw [mergeLeaf]; exact ht.insert hv; simp
  | .bool _ => fun hv => by rw [mergeLeaf]; exact ht.insert hv; simp
  | .number _ => fun hv => by rw [mergeLeaf]; exact ht.insert hv; simp
  | .string _ => fun hv => by rw [mergeLeaf]; exact ht.insert hv; simp
  | .date _ => fun hv => by rw [mergeLeaf]; exact ht.insert hv; simp
  | .binary _ => fun hv => by rw [mergeLeaf]; exact ht.insert hv; simp
  | .array _ => fun hv => by rw [mergeLeaf]; exact ht.insert hv; simp
  | .function _ => fun hv => by rw [mergeLeaf]; exact ht.insert hv; simp

theorem confined_mergeAll {target : Entries} (ht : Confined allowed (.record target)) :
    ∀ incoming : List (String × Value), Confined allowed (.record incoming) →
      Confined allowed (.record (mergeAll target incoming))
  | [] => fun _ => ht
  | (key, value) :: rest => fun hi => by
    rw [confined_record_iff, List.forall_mem_cons] at hi
    rw [mergeAll]
    exact confined_mergeAll (confined_mergeLeaf ht key value hi.1) rest (.record hi.2)

end

theorem confined_mergeAt {value : Value} : ∀ {path : List String} {target : Entries},
    (∀ key ∈ path, keyPath key = [key]) → Confined allowed (.record target) →
      ConfinedAt allowed path value → Confined allowed (.record (mergeAt target value path)) := by
  intro path
  induction path with
  | nil => exact fun _ ht _ => ht
  | cons key path ih =>
    intro target hsegments ht hv
    rw [List.forall_mem_cons] at hsegments
    cases path with
    | nil => exact confined_mergeLeaf ht key value (hsegments.1.symm ▸ hv)
    | cons next path =>
      refine ht.insert (hsegments.1.symm ▸ .cons_record hv.allowed_head fun ho => .nil ?_)
      exact ih hsegments.2 (ht.inner hsegments.1 ho) (hv.tail ho)

theorem confined_mergeChains : ∀ {pattern target : Entries}, Confined allowed (.record target) →
    Confined allowed (.record pattern) →
      Confined allowed (.record (mergeChains target pattern)) := by
  intro pattern
  induction pattern with
  | nil => exact fun ht _ => ht
  | cons entry rest ih =>
    intro target ht hp
    rw [confined_record_iff, List.forall_mem_cons] at hp
    exact ih (confined_mergeAt (fun _ => keyPath_of_mem) ht hp.1) (.record hp.2)

theorem confined_expand {pattern : Entries} (h : Confined allowed (.record pattern)) :
    Confined allowed (.record (expand pattern)) := by
  unfold expand
  split
  · exact confined_mergeChains (.record (by simp)) h
  · exact h

theorem Confined.of_mem_expand {pattern : Entries} (h : Confined allowed (.record pattern))
    {entry : String × Value} (he : entry ∈ expand pattern) :
    ConfinedAt allowed [entry.1] entry.2 := by
  rw [← keyPath_of_mem_expand he]
  exact confined_record_iff.mp (confined_expand h) entry he

end Pattern

/-! ### What predicates match -/

/-- The patterns in the argument of an operator: the items of a combinator's list, or the
argument. -/
inductive Pattern.Consulted (key : String) : Value → Value → Prop
  | item {items item} : key ∈ combinators → item ∈ items → Consulted key (.array items) item
  | argument {pattern} : key ∈ nesters → Consulted key pattern pattern

namespace Predicate

/-- The outcome of the test depends on the engine only by what it says of the patterns in the
argument. -/
def Consults (key : String) (predicate : Predicate) : Prop :=
  ∀ (subject argument : Value) (around other : Surroundings argument.weight),
    around.property = other.property → around.holder = other.holder →
      (∀ pattern, Pattern.Consulted key argument pattern → ∀ value h,
        around.accepts value pattern h = other.accepts value pattern h) →
        predicate.test subject argument around = predicate.test subject argument other

theorem consults_flag (key : String) (test : Value → Bool) : (flag test).Consults key :=
  fun _ _ _ _ _ _ _ => rfl

theorem consults_typed (key : String) (test : (subject argument : Value) → Bool) :
    (typed test).Consults key := fun _ _ _ _ _ _ _ => rfl

theorem consults_ofCombinator (combinator : Combinator) :
    (ofCombinator combinator).Consults combinator.name := by
  intro subject argument around other _ _ hsame
  have hname : combinator.name ∈ combinators := by cases combinator <;> decide
  cases argument with
  | array items =>
    simp only [ofCombinator, matchEach?, Option.any_some]
    congr 1
    exact List.map_congr_left fun pattern _ => hsame _ (.item hname pattern.2) _ _
  | _ => rfl

theorem consults_of_mem_combinations {entry : String × Predicate} (h : entry ∈ combinations) :
    entry.2.Consults entry.1 := by
  rw [combinations] at h
  simp only [List.mem_cons, List.not_mem_nil, or_false] at h
  rcases h with rfl | rfl | rfl | rfl | rfl
  · intro subject argument around other _ _ hsame
    simp only [hsame argument (.argument (by decide))]
  · exact consults_ofCombinator .and
  · exact consults_ofCombinator .or
  · exact consults_ofCombinator .nor
  · intro subject argument around other _ _ hsame
    simp only [hsame argument (.argument (by decide))]

/-- The builtin predicates match no patterns but those in their argument. -/
theorem consults_of_mem_builtins {functions : Functions} {entry : String × Predicate}
    (h : entry ∈ builtins functions) : entry.2.Consults entry.1 := by
  have htyped : ∀ entry ∈ comparisons ++ memberships ++ numerics ++ textuals ++ forms ++ kinds ++
      temporals, entry.2.Consults entry.1 := by
    simp [comparisons, memberships, numerics, textuals, forms, kinds, temporals, ofArrays, ofNumber,
      ofNumberAndArray, ofTexts, ofForm, consults_flag, consults_typed]
  have hcallers : ∀ entry ∈ callers functions, entry.2.Consults entry.1 := by
    rw [callers, List.forall_mem_singleton]
    intro subject argument around other hproperty hholder _
    simp only [Surroundings.toValue, hproperty, hholder]
  have hall : ∀ entry ∈ builtins functions, entry.2.Consults entry.1 := by
    simp only [builtins, List.forall_mem_append] at htyped ⊢
    have hcombinations : ∀ entry ∈ combinations, entry.2.Consults entry.1 :=
      fun _ => consults_of_mem_combinations
    tauto
  exact hall entry h

end Predicate

/-! ### Evaluation without transforms -/

namespace Registry

open Pattern (Confined ConfinedAt expand)

variable {registry : Registry} {allowed : String → Prop}

/-- The allowed operators are predicates, and match no patterns but those in their argument. -/
structure Decides (registry : Registry) (allowed : String → Prop) : Prop where
  marked : registry.Marked
  predicate : ∀ key, hasSigil key = true → allowed key → (registry.predicate? key).isSome = true
  consults : ∀ key predicate, registry.predicate? key = some predicate → predicate.Consults key

theorem Decides.field (hd : registry.Decides allowed) {key : String}
    (ha : hasSigil key = true → allowed key) (hp : registry.predicate? key = none) :
    hasSigil key = false := by
  by_contra hs
  rw [Bool.not_eq_false] at hs
  have hsome := hd.predicate key hs (ha hs)
  rw [hp] at hsome
  cases hsome

theorem Decides.transformFreeAt (hd : registry.Decides allowed) : ∀ {entries : Entries},
    (∀ entry ∈ entries, ConfinedAt allowed [entry.1] entry.2) →
      ∀ entry ∈ entries, registry.TransformFreeAt entry.1 entry.2 := by
  intro entries
  induction entries using Pattern.induct with
  | nil => simp
  | cons key argument rest ihNested ihRest =>
    intro h
    rw [List.forall_mem_cons] at h ⊢
    refine ⟨?_, ihRest h.2⟩
    cases hp : registry.predicate? key with
    | some predicate => exact .predicate hp
    | none =>
      have hfield := hd.field h.1.allowed_head hp
      have ht := (hd.marked key hfield).2
      cases hr : argument.record? with
      | none => exact .literal ht hr
      | some nested =>
        obtain rfl := Value.record?_eq_some_iff.mp hr
        have hnested := Pattern.confinedAt_nil_iff.mp (h.1.tail (Or.inl hfield))
        exact .nested ht (ihNested nested rfl fun _ => hnested.of_mem_expand)

/-- **A pattern whose operators are predicates comes to no transform.** -/
theorem transformFree_of_confined (hd : registry.Decides allowed) {pattern : Value}
    (h : Confined allowed pattern) : registry.TransformFree pattern := by
  intro entries he
  obtain rfl := Value.record?_eq_some_iff.mp he
  exact hd.transformFreeAt fun _ => h.of_mem_expand

theorem accepts_eq_of_run_eq {other : Registry} {value pattern : Value}
    (h : ∀ entries, pattern = .record entries →
      registry.run value none (expand entries) = other.run value none (expand entries)) :
    registry.accepts value pattern = other.accepts value pattern := by
  cases hr : pattern.record? with
  | none => rw [accepts_of_literal _ hr, accepts_of_literal _ hr]
  | some entries =>
    obtain rfl := Value.record?_eq_some_iff.mp hr
    rw [accepts_record, accepts_record, h entries rfl]

theorem Decides.run_eq (hd : registry.Decides allowed) {other : Registry} (hm : other.Marked)
    (he : other.predicates = registry.predicates) : ∀ {entries : Entries},
      (∀ entry ∈ entries, ConfinedAt allowed [entry.1] entry.2) →
        ∀ subject scope, registry.run subject scope entries = other.run subject scope entries := by
  intro entries
  induction entries using Pattern.induct_consulted with
  | nil => simp
  | cons key argument rest ihConsulted ihRest =>
    intro h subject scope
    rw [List.forall_mem_cons] at h
    have hsame : other.predicate? key = registry.predicate? key := by
      rw [predicate?, predicate?, he]
    have hconfined : ∀ inner, Value.weightEntries inner ≤ argument.weight →
        Confined allowed (.record inner) → ∀ subject scope,
          registry.run subject scope (expand inner) = other.run subject scope (expand inner) :=
      fun inner hw hc => ihConsulted inner hw fun _ => hc.of_mem_expand
    have hstep : registry.step subject scope key argument =
        other.step subject scope key argument := by
      cases hp : registry.predicate? key with
      | some predicate =>
        -- the predicate is given answers of the engine on patterns in the argument
        have hanswers : ∀ pattern, Pattern.Consulted key argument pattern → ∀ value
            (_ : pattern.weight ≤ argument.weight),
              registry.accepts value pattern = other.accepts value pattern := by
          intro pattern hq value hw
          have hpattern : Confined allowed pattern := by
            cases hq with
            | item hc hi => exact h.1.item hc hi
            | argument hn => exact Pattern.confinedAt_nil_iff.mp (h.1.tail (Or.inr hn))
          refine accepts_eq_of_run_eq fun inner hv => ?_
          subst hv
          exact hconfined inner hw hpattern value none
        rw [step_of_predicate hp, step_of_predicate (hsame.trans hp),
          hd.consults key predicate hp subject argument (registry.surroundings scope argument)
            (other.surroundings scope argument) rfl rfl hanswers]
      | none =>
        have hfield := hd.field h.1.allowed_head hp
        have ht := (hd.marked key hfield).2
        have ho := hm key hfield
        cases hr : argument.record? with
        | none => rw [step_of_literal hp ht hr, step_of_literal ho.1 ho.2 hr]
        | some nested =>
          obtain rfl := Value.record?_eq_some_iff.mp hr
          have hnested := Pattern.confinedAt_nil_iff.mp (h.1.tail (Or.inl hfield))
          rw [step_of_record hp ht, step_of_record ho.1 ho.2,
            hconfined nested (Nat.le_refl _) hnested]
    rw [run_cons, run_cons, hstep]
    congr 1
    funext first
    rw [ihRest h.2]

/-- **If the operators of a pattern are predicates, the transforms of the registry do not
matter.** -/
theorem evaluate?_eq_of_confined (hd : registry.Decides allowed) {other : Registry}
    (hm : other.Marked) (he : other.predicates = registry.predicates) {pattern : Value}
    (h : Confined allowed pattern) (data : Value) :
    other.evaluate? data pattern = registry.evaluate? data pattern := by
  cases hr : pattern.record? with
  | none => rw [evaluate?_of_literal _ hr, evaluate?_of_literal _ hr]
  | some entries =>
    obtain rfl := Value.record?_eq_some_iff.mp hr
    rw [evaluate?_record, evaluate?_record,
      hd.run_eq hm he (fun _ => h.of_mem_expand) data none]

end Registry

end RecordQuery

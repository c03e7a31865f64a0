import RecordQuery.Proofs.Selector.Restatement

/-!
# The meaning of a normalized selector

A normalized selector should accept the records that the selector accepts.  Falsy literals break
this wherever they stand, and the way rewriting joins keys to paths breaks it for keys that collide.

* `Selector.Unambiguous`, `Selector.Clear`: no two keys collide, in a record and in the elements of
  combinators as well.
* `Selector.clear_of_undotted`: distinct keys without dots do not collide.
* `Selector.accepts_eq_accepts_relax`: a normalized selector accepts what the selector without its
  falsy literals accepts.
* `Selector.accepts_eq_iff`: the records on which a selector keeps its meaning.
* `Selector.accepts_falsy`: a falsy literal accepts everything.
-/

namespace RecordQuery.Selector

open RecordQuery.Path (hasSigil child)
open Pattern (leavesOf leavesUnder keyPath Placed Separated)
open Registry (builtins)

/-- What rewriting has to be sure of to keep the meaning of a record: that operators are seen, that
no field without a name holds further fields, that no path leads through the end of another one, and
that no two clauses fall on one path. -/
structure Unambiguous (entries : Entries) : Prop where
  visible : ∀ part, Under part entries → Visible part
  named : ∀ nested, ("", Value.record nested) ∈ entries →
    nested = [] ∨ (nested.any fun entry => hasSigil entry.1) = true
  separated : Separated (leavesOf entries)
  distinct : (Assoc.keys (clausesOf "" entries)).Nodup

/-- Selectors whose keys do not collide, in the elements of combinators at the root included. -/
inductive Clear : Value → Prop
  | literal {v} : v.record? = none → Clear v
  | record {entries} : Unambiguous entries →
      (∀ key items item, (key, .array items) ∈ entries → key ∈ combinators → item ∈ items →
        Clear item) → Clear (.record entries)

/-! ### Keys without dots -/

/-- The keys of fields are single segments, and not empty. -/
def Undotted (entries : Entries) : Prop :=
  ∀ entry ∈ entries, hasSigil entry.1 = false → keyPath entry.1 = [entry.1] ∧ entry.1 ≠ ""

theorem separated_flatMap {entries : Entries} (path : List String)
    {f : String × Value → List Leaf} (hd : (Assoc.keys entries).Nodup)
    (hf : ∀ entry ∈ entries, Separated (f entry) ∧
      ∀ leaf ∈ f entry, path ++ [entry.1] <+: leaf.path) : Separated (entries.flatMap f) := by
  rw [Separated, List.pairwise_flatMap]
  refine ⟨fun entry he => (hf entry he).1, ?_⟩
  rw [Assoc.keys, List.Nodup, List.pairwise_map] at hd
  refine hd.imp_of_mem fun {first second} hfirst hsecond hne a ha b hb => ?_
  have happ : Leaf.Apart ⟨[first.1], .undefined⟩ ⟨[second.1], .undefined⟩ := by
    simpa [Leaf.Apart, eq_comm] using hne
  exact Restates.apart_of_isPrefix happ ((hf first hfirst).2 a ha) ((hf second hsecond).2 b hb)

theorem separated_of_undotted : ∀ {entries : Entries}, (Value.record entries).WellFormed →
    (∀ part, Under part entries → Undotted part) → Separated (leavesOf entries) := by
  intro entries
  induction entries using Value.induct_entries with
  | step entries ih =>
    intro hw hu
    obtain ⟨hd, hall⟩ := Value.wellFormed_record.mp hw
    rw [Pattern.leavesOf_eq_flatMap]
    refine separated_flatMap [] hd fun entry he => ?_
    obtain ⟨key, value⟩ := entry
    have hkey : keyPath key = [key] := by
      cases hk : hasSigil key with
      | true => exact Pattern.keyPath_of_hasSigil hk
      | false => exact (hu entries .self _ he hk).1
    refine ⟨?_, fun leaf hl => hkey ▸ Pattern.prefix_of_mem_leavesUnder hl⟩
    rcases Pattern.leavesUnder_cases key value with ⟨nested, rfl, -, hk, hl⟩ | ⟨-, hl⟩
    · dsimp only
      rw [hl, Pattern.separated_map_under (keyPath key)]
      exact ih key nested he (hall _ he) fun part hp => hu part (.nested he hk hp)
    · dsimp only
      rw [hl]
      exact List.pairwise_singleton ..

/-- The path and the argument of a clause. -/
def clauseLeaf (clause : String × Value) : Leaf := ⟨keyPath clause.1, clause.2⟩

theorem separated_clausesOfEntry : ∀ (value : Value) {path : List String} {parent key : String},
    hasSigil key = false → hasSigil (child parent key) = false → child parent key ≠ "" →
      keyPath (child parent key) = path ++ [key] →
        (∀ nested, value = .record nested →
          value.WellFormed ∧ ∀ part, Under part nested → Undotted part) →
          Separated ((clausesOfEntry parent key value).map clauseLeaf) ∧
            ∀ leaf ∈ (clausesOfEntry parent key value).map clauseLeaf,
              path ++ [key] <+: leaf.path := by
  intro value
  induction value using Value.induct with
  | scalar v _ hr =>
    intro path parent key hk _ _ hpath _
    rw [clausesOfEntry_literal hk hr, List.map_singleton, List.forall_mem_singleton, ← hpath]
    exact ⟨List.pairwise_singleton .., List.prefix_refl _⟩
  | array items _ =>
    intro path parent key hk _ _ hpath _
    rw [clausesOfEntry_literal hk rfl, List.map_singleton, List.forall_mem_singleton, ← hpath]
    exact ⟨List.pairwise_singleton .., List.prefix_refl _⟩
  | record nested ih =>
    intro path parent key hk hc hne hpath hok
    obtain ⟨hw, hu⟩ := hok nested rfl
    cases hn : nested.any fun entry => hasSigil entry.1 with
    | true =>
      rw [clausesOfEntry_clauses hk hn]
      split
      · exact ⟨.nil, fun leaf hl => absurd hl List.not_mem_nil⟩
      · rw [List.map_singleton, List.forall_mem_singleton, ← hpath]
        exact ⟨List.pairwise_singleton .., List.prefix_refl _⟩
    | false =>
      have hbelow : ∀ entry ∈ nested,
          Separated ((clausesOfEntry (child parent key) entry.1 entry.2).map clauseLeaf) ∧
            ∀ leaf ∈ (clausesOfEntry (child parent key) entry.1 entry.2).map clauseLeaf,
              (path ++ [key]) ++ [entry.1] <+: leaf.path := by
        intro entry he
        have hentry : hasSigil entry.1 = false := by
          rw [List.any_eq_false] at hn
          simpa using hn entry he
        refine ih entry he hentry (hasSigil_child hc hentry) (child_ne_empty hne) ?_ ?_
        · rw [keyPath_child hne hc hentry, hpath, (hu nested .self entry he hentry).1]
        · intro inner hi
          have hmem : (entry.1, Value.record inner) ∈ nested := hi ▸ he
          exact ⟨(Value.wellFormed_record.mp hw).2 entry he,
            fun part hp => hu part (.nested hmem hentry hp)⟩
      have hlist : (clausesOf (child parent key) nested).map clauseLeaf =
          nested.flatMap fun entry =>
          (clausesOfEntry (child parent key) entry.1 entry.2).map clauseLeaf := by
        rw [clausesOf_eq_flatMap, List.map_flatMap]
      rw [clausesOfEntry_nested hk hn, hlist]
      refine ⟨separated_flatMap _ (Value.wellFormed_record.mp hw).1 hbelow, fun leaf hl => ?_⟩
      obtain ⟨entry, he, hl⟩ := List.mem_flatMap.mp hl
      exact (List.prefix_append ..).trans ((hbelow entry he).2 leaf hl)

theorem separated_clausesOf {entries : Entries} (hw : (Value.record entries).WellFormed)
    (hu : ∀ part, Under part entries → Undotted part) :
    Separated ((clausesOf "" entries).map clauseLeaf) := by
  obtain ⟨hd, hall⟩ := Value.wellFormed_record.mp hw
  rw [clausesOf_eq_flatMap, List.map_flatMap]
  refine separated_flatMap [] hd fun entry he => ?_
  cases hk : hasSigil entry.1 with
  | true =>
    rw [clausesOfEntry_operator hk]
    split
    · rw [List.map_singleton, List.forall_mem_singleton, clauseLeaf,
        Pattern.keyPath_of_hasSigil hk]
      exact ⟨List.pairwise_singleton .., List.prefix_refl _⟩
    · exact ⟨.nil, fun leaf hl => absurd hl List.not_mem_nil⟩
  | false =>
    have hchild : child "" entry.1 = entry.1 := if_pos rfl
    obtain ⟨hkey, hne⟩ := hu entries .self entry he hk
    refine separated_clausesOfEntry entry.2 hk (by rw [hchild, hk]) (by rw [hchild]; exact hne)
      (by rw [hchild, hkey, List.nil_append]) fun nested hn => ?_
    have hmem : (entry.1, Value.record nested) ∈ entries := hn ▸ he
    exact ⟨hall entry he, fun part hp => hu part (.nested hmem hk hp)⟩

/-- **Distinct keys without dots do not collide.** -/
theorem unambiguous_of_undotted {entries : Entries} (hw : (Value.record entries).WellFormed)
    (hu : ∀ part, Under part entries → Undotted part) : Unambiguous entries := by
  refine ⟨fun part hp entry he hk => ?_, fun nested hm => ?_, separated_of_undotted hw hu, ?_⟩
  · rw [(hu part hp entry he hk).1]
    exact List.forall_mem_singleton.mpr hk
  · exact absurd rfl (hu entries .self _ hm rfl).2
  · -- clauses under one key would fall on one path
    have hsep := separated_clausesOf hw hu
    rw [Separated, List.pairwise_map] at hsep
    rw [Assoc.keys, List.Nodup, List.pairwise_map]
    refine hsep.imp fun {first second} happ he => happ.1 ?_
    show keyPath first.1 <+: keyPath second.1
    exact he ▸ List.prefix_refl _

/-- Without dots and repetitions no keys collide, wherever they stand. -/
theorem clear_of_undotted : ∀ {selector : Value}, selector.WellFormed →
    (∀ entries, Within (.record entries) selector → Undotted entries) → Clear selector := by
  intro selector
  induction selector using Selector.induct with
  | literal v hv => exact fun _ _ => .literal hv
  | record entries ih =>
    intro hw hu
    have hroot := unambiguous_of_undotted hw fun part hp => hu part (within_of_under hp)
    refine .record hroot fun key items item hm hk hi => ?_
    refine ih key items item hm hi (hw.of_occurs (.field hm (.item hi .self))) fun part hp => ?_
    exact hu part (hp.trans (.inside (.item hm hk hi) .self))

/-! ### Selectors and their clauses -/

variable (functions : Functions)

theorem normalizeItems_eq_map (items : List Value) :
    normalizeItems items = items.map normalize := by
  induction items with
  | nil => rfl
  | cons item items ih => rw [normalizeItems, ih, List.map_cons]

theorem passes_normalizeArgument_iff {key : String} (hsigil : hasSigil key = true)
    (argument : Value)
    (hitems : ∀ items, argument = .array items → key ∈ combinators → ∀ item ∈ items, ∀ subject,
      (builtins functions).accepts subject (normalize item) =
        (builtins functions).accepts subject (relax item)) (subject : Value)
        (scope : Option Scope) :
    (builtins functions).Passes subject scope key (relaxEntry key argument) ↔
      (builtins functions).Passes subject scope key (normalizeArgument key argument) := by
  by_cases hk : key ∈ combinators
  · cases argument with
    | array items =>
      obtain ⟨combine, hcombine⟩ := Registry.passes_combinator functions hk
      have hsame : (normalizeItems items).map ((builtins functions).accepts subject) =
          (items.map relax).map ((builtins functions).accepts subject) := by
        rw [normalizeItems_eq_map, List.map_map, List.map_map]
        exact List.map_congr_left fun item hi => hitems items rfl hk item hi subject
      rw [normalizeArgument_array hk, relaxEntry_combinator hk, hcombine, hcombine, hsame]
    | _ => simp [relaxEntry, normalizeArgument, hsigil]
  · rw [normalizeArgument_of_not_mem hk, relaxEntry_operator hsigil hk]

/-- The clauses of a record restate its leaves, falsy literals being relaxed. -/
theorem restates_clausesOf {entries : Entries}
    (hs : Supported (builtins functions) (.record entries))
    (hu : Unambiguous entries)
    (hitems : ∀ key items item, (key, .array items) ∈ entries → key ∈ combinators → item ∈ items →
      ∀ subject, (builtins functions).accepts subject (normalize item) =
        (builtins functions).accepts subject (relax item)) :
    Restates functions [] (leavesOf (relaxEntries entries)) (leavesOf (clausesOf "" entries)) := by
  refine .clausesOf fun entry he => ?_
  obtain ⟨key, value⟩ := entry
  dsimp only
  cases hk : hasSigil key with
  | true =>
    obtain ⟨hsafe, hpred⟩ := hs entries .self _ he hk
    have hnew : leavesOf (clausesOfEntry "" key value) =
        [⟨[key], normalizeArgument key value⟩] := by
      rw [clausesOfEntry_operator hk, if_pos hsafe, leavesOf, leavesOf, List.append_nil,
        Pattern.leavesUnder_of_hasSigil hk]
    rw [hnew, Pattern.leavesUnder_of_hasSigil hk]
    refine ⟨fun subject => ?_, ⟨_, .refl _, .cons (List.prefix_refl _) .nil⟩, ?_⟩
    · rw [List.forall_mem_singleton, List.forall_mem_singleton]
      exact passes_normalizeArgument_iff functions hk value
        (fun items hi hc item hm => hitems key items item (hi ▸ he) hc hm) subject none
    · refine List.forall_mem_singleton.mpr ⟨fun segment hseg => absurd hseg List.not_mem_nil, ?_⟩
      rintro _ ⟨⟩ -
      exact hpred
  | false =>
    have hchild : child "" key = key := if_pos rfl
    have hpath : keyPath (child "" key) = [] ++ keyPath key := by rw [hchild, List.nil_append]
    have hplain : ∀ segment ∈ [] ++ keyPath key, hasSigil segment = false := by
      rw [List.nil_append]
      exact hu.visible entries .self (key, value) he hk
    refine restates_clausesOfEntry value hk (by rw [hchild, hk]) hpath hplain
      (fun h nested hn => ?_) (fun nested hn => ?_)
    · rw [hchild] at h
      exact hu.named nested (h ▸ hn ▸ he)
    · have hmem : (key, Value.record nested) ∈ entries := hn ▸ he
      exact ⟨hs.of_within (.inside (.nested hmem hk) .self),
        fun part hp => hu.visible part (.nested hmem hk hp)⟩

/-- Only the paths of leaves matter for where they stand. -/
theorem tests_and_separated_relaxEntries {registry : Registry} {entries : Entries}
    (ht : ∀ leaf ∈ leavesOf entries, Placed leaf ∧ registry.Tests leaf)
    (hs : Separated (leavesOf entries)) :
    (∀ leaf ∈ leavesOf (relaxEntries entries), Placed leaf ∧ registry.Tests leaf) ∧
      Separated (leavesOf (relaxEntries entries)) := by
  have hpaths := map_path_relaxEntries entries
  constructor
  · intro leaf hm
    have hmem : leaf.path ∈ (leavesOf entries).map Leaf.path :=
      hpaths ▸ List.mem_map.mpr ⟨leaf, hm, rfl⟩
    obtain ⟨origin, ho, hpath⟩ := List.mem_map.mp hmem
    have hok := ht origin ho
    rw [Placed, Registry.Tests, hpath] at hok
    exact hok
  · have hapart : ∀ leaves : List Leaf, Separated leaves ↔
        (leaves.map Leaf.path).Pairwise fun p q => ¬p <+: q ∧ ¬q <+: p := by
      intro leaves
      rw [List.pairwise_map]
      rfl
    rwa [hapart, hpaths, ← hapart]

/-- **A normalized selector loses its falsy literals and nothing else.**  It accepts the records
that the engine accepts for the selector with the empty record, which asserts nothing, in their
place. -/
theorem accepts_eq_accepts_relax {selector : Value} (h : Clear selector)
    (hs : Supported (builtins functions) selector) (subject : Value) :
    accepts (builtins functions) selector subject =
      (builtins functions).accepts subject (relax selector) := by
  induction h generalizing subject with
  | @literal v hv =>
    cases v with
    | record => cases hv
    | _ => rfl
  | @record entries hu _ ih =>
    have hreg := Registry.marked_builtins functions
    have hclauses := restates_clausesOf functions hs hu fun key items item hm hk hi subject =>
      ih key items item hm hk hi (hs.of_within (.inside (.item hm hk hi) .self)) subject
    obtain ⟨htests, hsep⟩ :=
      tests_and_separated_relaxEntries (tests_of_supported hs hu.visible) hu.separated
    rw [accepts, normalize_record, Assoc.ofList_of_nodup hu.distinct, relax, Bool.eq_iff_iff,
      Registry.accepts_iff_holdsAt hreg hclauses.tests (hclauses.separated hsep),
      Registry.accepts_iff_holdsAt hreg htests hsep]
    exact (hclauses.holds subject).symm

theorem accepts_eq_of_relax_eq {selector : Value} (h : Clear selector)
    (hr : relax selector = selector)
    (hs : Supported (builtins functions) selector) (subject : Value) :
    accepts (builtins functions) selector subject =
      (builtins functions).accepts subject selector := by
  rw [accepts_eq_accepts_relax functions h hs, hr]

/-- **When a normalized selector keeps its meaning.**  It accepts what the engine accepts for the
selector without its falsy literals, which became equations that assert nothing; so it agrees with
the selector on a record exactly when they make no difference to the engine there. -/
theorem accepts_eq_iff {selector : Value} (h : Clear selector)
    (hs : Supported (builtins functions) selector) (subject : Value) :
    accepts (builtins functions) selector subject =
        (builtins functions).accepts subject (relax selector) ∧
      (accepts (builtins functions) selector subject =
          (builtins functions).accepts subject selector ↔
        (builtins functions).accepts subject (relax selector) =
          (builtins functions).accepts subject selector) := by
  have hrelax := accepts_eq_accepts_relax functions h hs subject
  exact ⟨hrelax, by rw [hrelax]⟩

/-- Falsy literals below a combinator and beside it, and a record on which they make a
difference. -/
theorem accepts_eq_iff_nested :
    let registry := builtins fun _ _ => .undefined
    let selector : Value :=
      .record [("$or", .array [.record [("a", .bool false)]]), ("b", .record [("c", .null)])]
    let relaxed : Value :=
      .record [("$or", .array [.record [("a", .record [])]]), ("b", .record [("c", .record [])])]
    let subject : Value := .record [("a", .bool true)]
    (accepts registry selector subject = registry.accepts subject relaxed ∧
      (accepts registry selector subject = registry.accepts subject selector ↔
        registry.accepts subject relaxed = registry.accepts subject selector)) ∧
      registry.accepts subject relaxed = true ∧ registry.accepts subject selector = false := by
  intro registry selector relaxed subject
  have hparts : ∀ entries, Within (.record entries) selector →
      entries = [("$or", .array [.record [("a", .bool false)]]), ("b", .record [("c", .null)])] ∨
        entries = [("a", .bool false)] ∨ entries = [("c", .null)] := by
    intro entries hw
    dsimp only [selector] at hw
    rcases hw with _ | ⟨hi, hw⟩
    · exact Or.inl rfl
    · cases hi with
      | nested hm hk =>
        simp only [List.mem_cons, Prod.mk.injEq, List.not_mem_nil, or_false] at hm
        obtain ⟨rfl, -⟩ | ⟨-, rfl⟩ := hm
        · cases hk
        · exact Or.inr (Or.inr (eq_of_within_plain (by simp; decide) hw))
      | item hm hk hi =>
        simp only [List.mem_cons, Prod.mk.injEq, List.not_mem_nil, or_false,
          reduceCtorEq, and_false, Value.array.injEq] at hm
        obtain ⟨-, rfl⟩ := hm
        obtain rfl := List.mem_singleton.mp hi
        exact Or.inr (Or.inl (eq_of_within_plain (by simp; decide) hw))
      | argument hm hk =>
        simp only [List.mem_cons, Prod.mk.injEq, List.not_mem_nil, or_false] at hm
        obtain ⟨rfl, -⟩ | ⟨rfl, -⟩ := hm <;> exact absurd hk (by decide)
  have hrelax : relax selector = relaxed := by rfl
  have hw : selector.WellFormed := by simp [selector]
  have hclear : Clear selector := clear_of_undotted hw fun entries he => by
    rcases hparts entries he with rfl | rfl | rfl <;> simp [Undotted] <;> decide
  have hs : Supported registry selector := fun entries he => by
    rcases hparts entries he with rfl | rfl | rfl
    · simp; decide
    · simp; decide
    · simp; decide
  refine ⟨hrelax ▸ accepts_eq_iff (fun _ _ => .undefined) hclear hs subject, ?_, ?_⟩
  · decide +kernel
  · decide +kernel

/-- A falsy literal lets every record through, where the selector asks for an equal field. -/
theorem accepts_falsy {key : String} {literal : Value} (hk : hasSigil key = false)
    (hkey : keyPath key = [key]) (hl : literal.record? = none) (hf : literal.isTruthy = false)
    (subject : Value) :
    accepts (builtins functions) (.record [(key, literal)]) subject = true ∧
      (builtins functions).accepts subject (.record [(key, literal)]) =
        (subject.field key == literal) := by
  have hreg := Registry.marked_builtins functions
  have hplain : ∀ segment ∈ keyPath key, hasSigil segment = false := by
    rw [hkey]
    exact List.forall_mem_singleton.mpr hk
  have hchild : child "" key = key := if_pos rfl
  have hc : hasSigil (child "" key) = false := by rw [hchild, hk]
  have hclauses : clausesOf "" [(key, literal)] = clausesOfEntry "" key literal := by
    rw [clausesOf, clausesOf, List.append_nil]
  have hleaf : leavesOf [(key, literal)] = [⟨[key], literal⟩] := by
    rw [leavesOf, leavesOf, List.append_nil, Pattern.leavesUnder_of_literal hl, hkey]
  have hequation : Restates functions [] (leavesUnder key (relaxEntry key literal))
      (leavesOf (clausesOfEntry "" key literal)) :=
    .equation hk hl hc (by rw [hchild, List.nil_append]) hplain
  constructor
  · have hnodup : (Assoc.keys (clausesOfEntry "" key literal)).Nodup := by
      rw [clausesOfEntry_literal hk hl]
      exact List.nodup_cons.mpr ⟨List.not_mem_nil, List.nodup_nil⟩
    have hsep : Separated (leavesUnder key (relaxEntry key literal)) := by
      rw [relaxEntry_literal hk hl, hf, if_neg Bool.false_ne_true, Pattern.leavesUnder_empty]
      exact List.pairwise_singleton ..
    rw [accepts, normalize_record, hclauses, Assoc.ofList_of_nodup hnodup,
      Registry.accepts_iff_holdsAt hreg hequation.tests (hequation.separated hsep),
      leavesOf_equation hk hl hc, List.forall_mem_singleton, hchild]
    exact (holdsAt_equation_iff functions hl (Pattern.keyPath_ne_nil key) hplain).mpr (Or.inl hf)
  · obtain ⟨hp, ht⟩ := hreg key hk
    have htests : ∀ leaf ∈ leavesOf [(key, literal)],
        Placed leaf ∧ (builtins functions).Tests leaf := by
      rw [hleaf]
      refine List.forall_mem_singleton.mpr ⟨fun segment hs => absurd hs List.not_mem_nil, ?_⟩
      intro last hlast hs
      obtain rfl : key = last := Option.some.inj hlast
      rw [hk] at hs
      cases hs
    rw [Bool.eq_iff_iff,
      Registry.accepts_iff_holdsAt hreg htests (hleaf ▸ List.pairwise_singleton ..),
      hleaf, List.forall_mem_singleton, Registry.holdsAt_singleton,
      Registry.passes_literal_iff hp ht hl]

end RecordQuery.Selector

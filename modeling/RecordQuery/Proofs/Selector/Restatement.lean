import Mathlib.Data.List.Forall2
import RecordQuery.Proofs.Pattern.Builtins
import RecordQuery.Proofs.Selector.Closure

/-!
# Clauses and the leaves that they restate

Rewriting turns the leaves of a selector into clauses.  An operator keeps its path and its argument,
and a literal becomes an equation at the end of its path.  A falsy literal loses its meaning that
way, since an equation with a falsy argument asserts nothing, as an empty record in its place would.

* `Selector.keyPath_child`: the segments of the path of a clause.
* `Selector.relax`: a selector with empty records in the place of its falsy literals.
* `Selector.map_path_relaxEntries`: its leaves stand where those of the selector do.
* `Selector.Supported`, `Selector.Visible`: what is asked of the operators and the keys of a
  selector.
* `Selector.Restates`: clauses say what leaves say.
* `Selector.restates_clausesOfEntry`: the clauses of an entry restate the leaves of the relaxed one.
-/

namespace RecordQuery.Selector

open RecordQuery.Path (hasSigil child)
open Pattern (leavesOf leavesUnder keyPath Placed Separated)
open Registry (builtins)

/-! ### Paths of clauses -/

/-- A path below another one has the segments of both. -/
theorem keyPath_child {parent key : String} (hne : parent ≠ "") (hp : hasSigil parent = false)
    (hk : hasSigil key = false) : keyPath (child parent key) = keyPath parent ++ keyPath key := by
  have hc := hasSigil_child hp hk
  rw [keyPath, keyPath, keyPath, hc, hp, hk, child, if_neg hne]
  simp only [Bool.false_eq_true, if_false, Path.segments, String.toList_append, List.append_assoc]
  rw [show ".".toList = ['.'] from rfl, List.singleton_append, Pattern.splitOn_append (by decide),
    List.map_append]

theorem child_ne_empty {parent key : String} (h : parent ≠ "") : child parent key ≠ "" := by
  rw [child, if_neg h]
  intro he
  have := congrArg String.toList he
  simp at this

/-! ### Falsy literals -/

mutual

/-- A selector that asks nothing of its falsy literals: where they become equations, in the elements
of combinators at the root too, the empty record takes their place. -/
def relax : Value → Value
  | .record entries => .record (relaxEntries entries)
  | v => v

/-- Selectors that ask nothing of their falsy literals. -/
def relaxItems : List Value → List Value
  | [] => []
  | item :: items => relax item :: relaxItems items

/-- Entries that ask nothing of their falsy literals. -/
def relaxEntries : List (String × Value) → Entries
  | [] => []
  | (key, value) :: rest => (key, relaxEntry key value) :: relaxEntries rest

/-- What stands under a key without its falsy literals; records of clauses are left alone. -/
def relaxEntry (key : String) : Value → Value
  | .array items => .array (if combinators.contains key then relaxItems items else items)
  | .record nested =>
    if hasSigil key || nested.any fun entry => hasSigil entry.1 then .record nested
    else .record (relaxEntries nested)
  | literal => if hasSigil key || literal.isTruthy then literal else .record []

end

theorem relaxItems_eq_map (items : List Value) : relaxItems items = items.map relax := by
  induction items with
  | nil => rfl
  | cons item items ih => rw [relaxItems, ih, List.map_cons]

theorem relaxEntries_eq_map (entries : Entries) :
    relaxEntries entries = entries.map fun entry => (entry.1, relaxEntry entry.1 entry.2) := by
  induction entries with
  | nil => rfl
  | cons entry rest ih => rw [relaxEntries, ih, List.map_cons]

theorem relaxEntry_combinator {key : String} (h : key ∈ combinators) (items : List Value) :
    relaxEntry key (.array items) = .array (items.map relax) := by
  rw [relaxEntry, if_pos (by simpa using h), relaxItems_eq_map]

theorem relaxEntry_operator {key : String} (hk : hasSigil key = true) (h : key ∉ combinators)
    (argument : Value) : relaxEntry key argument = argument := by
  cases argument with
  | array items => rw [relaxEntry, if_neg (by simpa using h)]
  | _ => simp [relaxEntry, hk]

theorem relaxEntry_literal {key : String} {literal : Value} (hk : hasSigil key = false)
    (hl : literal.record? = none) :
    relaxEntry key literal = if literal.isTruthy then literal else .record [] := by
  cases literal with
  | record => cases hl
  | array items =>
    have hc : key ∉ combinators := fun h => by
      rw [hasSigil_of_mem_combinators h] at hk
      cases hk
    rw [relaxEntry, if_neg (by simpa using hc)]
    rfl
  | _ => simp [relaxEntry, hk]

theorem relaxEntry_clauses {key : String} {nested : Entries}
    (hn : (nested.any fun entry => hasSigil entry.1) = true) :
    relaxEntry key (.record nested) = .record nested := by
  rw [relaxEntry, hn, Bool.or_true]
  rfl

theorem relaxEntry_nested {key : String} {nested : Entries} (hk : hasSigil key = false)
    (hn : (nested.any fun entry => hasSigil entry.1) = false) :
    relaxEntry key (.record nested) = .record (relaxEntries nested) := by
  rw [relaxEntry, hk, hn]
  rfl

/-- The leaves of a relaxed selector stand where those of the selector do. -/
theorem map_path_relaxEntries : ∀ entries : Entries,
    (leavesOf (relaxEntries entries)).map Leaf.path = (leavesOf entries).map Leaf.path := by
  intro entries
  induction entries using Value.induct_entries with
  | step entries ih =>
    rw [relaxEntries_eq_map, Pattern.leavesOf_eq_flatMap, Pattern.leavesOf_eq_flatMap,
      List.flatMap_map, List.map_flatMap, List.map_flatMap]
    refine List.flatMap_congr fun entry he => ?_
    obtain ⟨key, value⟩ := entry
    dsimp only
    cases hk : hasSigil key with
    | true => rw [Pattern.leavesUnder_of_hasSigil hk, Pattern.leavesUnder_of_hasSigil hk]; rfl
    | false =>
      cases hr : value.record? with
      | none =>
        rw [relaxEntry_literal hk hr, Pattern.leavesUnder_of_literal hr]
        split
        · rw [Pattern.leavesUnder_of_literal hr]
        · rw [Pattern.leavesUnder_empty]; rfl
      | some nested =>
        obtain rfl := Value.record?_eq_some_iff.mp hr
        cases hn : nested.any fun entry => hasSigil entry.1 with
        | true => rw [relaxEntry_clauses hn]
        | false =>
          rw [relaxEntry_nested hk hn]
          by_cases hne : nested = []
          · rw [hne]; rfl
          · have hne' : relaxEntries nested ≠ [] := by
              rwa [relaxEntries_eq_map, ne_eq, List.map_eq_nil_iff]
            have hpaths := congrArg (List.map (keyPath key ++ ·)) (ih key nested he)
            rw [Pattern.leavesUnder_record hk hne, Pattern.leavesUnder_record hk hne']
            simpa [Leaf.under, Function.comp_def] using hpaths

/-! ### Clauses restate leaves -/

variable (functions : Functions)

theorem holdsAt_equation_iff {literal : Value} (hl : literal.record? = none) :
    ∀ {path : List String} {subject : Value} {scope : Option Scope}, path ≠ [] →
      (∀ segment ∈ path, hasSigil segment = false) →
        ((builtins functions).HoldsAt subject scope (path ++ ["$eq"]) literal ↔
          literal.isTruthy = false ∨
            (builtins functions).HoldsAt subject scope path literal) := by
  intro path
  induction path with
  | nil => intro _ _ h; exact absurd rfl h
  | cons key path ih =>
    intro subject scope _ hplain
    cases path with
    | nil =>
      obtain ⟨hp, ht⟩ := Registry.marked_builtins functions key (hplain key List.mem_cons_self)
      show (builtins functions).Passes _ _ "$eq" literal ↔
        _ ∨ (builtins functions).Passes subject scope key literal
      rw [Registry.passes_equation_iff, Registry.passes_literal_iff hp ht hl]
    | cons next path =>
      exact ih (List.cons_ne_nil _ _) fun s hs => hplain s (List.mem_cons_of_mem _ hs)

theorem holdsAt_empty : ∀ {path : List String} {subject : Value} {scope : Option Scope},
    path ≠ [] → (∀ segment ∈ path, hasSigil segment = false) →
      (builtins functions).HoldsAt subject scope path (.record []) := by
  intro path
  induction path with
  | nil => intro _ _ h; exact absurd rfl h
  | cons key path ih =>
    intro subject scope _ hplain
    cases path with
    | nil =>
      obtain ⟨hp, ht⟩ := Registry.marked_builtins functions key (hplain key List.mem_cons_self)
      exact .nested hp ht fun entry he => absurd he List.not_mem_nil
    | cons next path =>
      exact ih (List.cons_ne_nil _ _) fun s hs => hplain s (List.mem_cons_of_mem _ hs)

/-- The leaves of clauses say what the leaves of a selector below a path say. -/
structure Restates (path : List String) (old new : List Leaf) : Prop where
  /-- The clauses say as much as the leaves. -/
  holds : ∀ subject,
    (∀ leaf ∈ old, (builtins functions).HoldsAt subject none (path ++ leaf.path) leaf.value) ↔
      ∀ leaf ∈ new, (builtins functions).HoldsAt subject none leaf.path leaf.value
  /-- The path of a clause goes on from that of a leaf. -/
  grows : ∃ kept, kept.Sublist old ∧
    List.Forall₂ (fun clause leaf => path ++ leaf.path <+: clause.path) new kept
  /-- The clauses end in predicates and literals. -/
  tests : ∀ leaf ∈ new, Placed leaf ∧ (builtins functions).Tests leaf

namespace Restates

variable {functions} {path below : List String} {old new old' new' : List Leaf}

theorem nil (path : List String) : Restates functions path [] [] :=
  ⟨fun _ => by simp, ⟨[], .refl _, .nil⟩, fun _ hm => absurd hm List.not_mem_nil⟩

theorem append (h : Restates functions path old new) (h' : Restates functions path old' new') :
    Restates functions path (old ++ old') (new ++ new') := by
  refine ⟨fun subject => ?_, ?_, List.forall_mem_append.mpr ⟨h.tests, h'.tests⟩⟩
  · rw [List.forall_mem_append, List.forall_mem_append, h.holds, h'.holds]
  · obtain ⟨kept, hk, hf⟩ := h.grows
    obtain ⟨kept', hk', hf'⟩ := h'.grows
    exact ⟨kept ++ kept', hk.append hk', List.rel_append hf hf'⟩

theorem under (h : Restates functions (path ++ below) old new) :
    Restates functions path (old.map (.under below)) new := by
  refine ⟨fun subject => ?_, ?_, h.tests⟩
  · rw [List.forall_mem_map]
    simpa [Leaf.under] using h.holds subject
  · obtain ⟨kept, hk, hf⟩ := h.grows
    refine ⟨kept.map (.under below), hk.map _, ?_⟩
    rw [List.forall₂_map_right_iff]
    simpa [Leaf.under] using hf

theorem exists_of_forall₂ {R : Leaf → Leaf → Prop} {clause : Leaf} {clauses leaves : List Leaf}
    (h : List.Forall₂ R clauses leaves) (hm : clause ∈ clauses) :
    ∃ leaf ∈ leaves, R clause leaf := by
  induction h with
  | nil => cases hm
  | @cons first leaf clauses leaves hr _ ih =>
    rcases List.mem_cons.mp hm with rfl | hm
    · exact ⟨leaf, List.mem_cons_self, hr⟩
    · obtain ⟨other, ho, hr⟩ := ih hm
      exact ⟨other, List.mem_cons_of_mem _ ho, hr⟩

theorem apart_of_isPrefix {first second first' second' : Leaf} (h : first.Apart second)
    (h₁ : path ++ first.path <+: first'.path) (h₂ : path ++ second.path <+: second'.path) :
    first'.Apart second' := by
  have hcommon : ∀ {whole : List String}, path ++ first.path <+: whole →
      path ++ second.path <+: whole → False := by
    intro whole hf hs
    rcases List.prefix_or_prefix_of_prefix hf hs with hp | hp
    · exact h.1 ((List.prefix_append_right_inj path).mp hp)
    · exact h.2 ((List.prefix_append_right_inj path).mp hp)
  exact ⟨fun hp => hcommon (h₁.trans hp) h₂, fun hp => hcommon h₁ (h₂.trans hp)⟩

theorem separated (h : Restates functions path old new) (hs : Separated old) :
    Separated new := by
  obtain ⟨kept, hk, hf⟩ := h.grows
  have hkept := hs.sublist hk
  clear hk hs h
  induction hf with
  | nil => exact .nil
  | @cons clause leaf clauses leaves hpre hf ih =>
    obtain ⟨hfirst, hrest⟩ := List.pairwise_cons.mp hkept
    refine List.pairwise_cons.mpr ⟨fun other hm => ?_, ih hrest⟩
    obtain ⟨origin, ho, hr⟩ := exists_of_forall₂ hf hm
    exact apart_of_isPrefix (hfirst origin ho) hpre hr

end Restates

/-! ### What rewriting understands -/

/-- The record and the records below its fields, those below operators left out. -/
inductive Under (part : Entries) : Entries → Prop
  | self : Under part part
  | nested {entries key inner} : (key, .record inner) ∈ entries → hasSigil key = false →
      Under part inner → Under part entries

/-- All operators at a pattern position of the selector are safe, and predicates of the registry. -/
def Supported (registry : Registry) (selector : Value) : Prop :=
  ∀ entries, Within (.record entries) selector → ∀ entry ∈ entries, hasSigil entry.1 = true →
    isSafe entry.1 = true ∧ (registry.predicate? entry.1).isSome = true

/-- The keys of a record that are no operators have no segment that is one. -/
def Visible (entries : Entries) : Prop :=
  ∀ entry ∈ entries, hasSigil entry.1 = false → ∀ segment ∈ keyPath entry.1,
    hasSigil segment = false

theorem within_of_under {part entries : Entries} (h : Under part entries) :
    Within (.record part) (.record entries) := by
  induction h with
  | self => exact .self
  | nested hm hk _ ih => exact .inside (.nested hm hk) ih

/-- In a record of plain fields with literals there is no other pattern. -/
theorem eq_of_within_plain {part entries : Entries}
    (h : ∀ entry ∈ entries, hasSigil entry.1 = false ∧ entry.2.record? = none)
    (hw : Within (.record part) (.record entries)) : part = entries := by
  cases hw with
  | self => rfl
  | @inside _ v hi hw =>
    cases hi with
    | nested hm =>
      have hv := (h _ hm).2
      cases hw with
      | self => cases hv
      | inside => cases hv
    | item hm hk =>
      have hplain := (h _ hm).1
      rw [hasSigil_of_mem_combinators hk] at hplain
      cases hplain
    | argument hm hk =>
      have hplain := (h _ hm).1
      rw [hasSigil_of_mem_nesters hk] at hplain
      cases hplain

theorem Supported.of_within {registry : Registry} {part selector : Value}
    (h : Supported registry selector) (hw : Within part selector) : Supported registry part :=
  fun entries he => h entries (he.trans hw)

theorem placed_under {path : List String} (hp : ∀ segment ∈ path, hasSigil segment = false)
    {leaf : Leaf} (h : Placed leaf) (hn : leaf.path ≠ []) : Placed (leaf.under path) := by
  intro segment hs
  rw [Leaf.under, List.dropLast_append_of_ne_nil hn] at hs
  exact (List.mem_append.mp hs).elim (hp segment) (h segment)

/-- The leaves of a supported selector are predicates, literals and empty records. -/
theorem tests_of_supported {registry : Registry} : ∀ {entries : Entries},
    Supported registry (.record entries) → (∀ part, Under part entries → Visible part) →
      ∀ leaf ∈ leavesOf entries, Placed leaf ∧ registry.Tests leaf := by
  intro entries
  induction entries using Value.induct_entries with
  | step entries ih =>
    intro hs hv leaf hm
    obtain ⟨⟨key, value⟩, he, hl⟩ := Pattern.mem_leavesOf.mp hm
    cases hk : hasSigil key with
    | true =>
      rw [Pattern.leavesUnder_of_hasSigil hk, List.mem_singleton] at hl
      subst hl
      refine ⟨fun segment hseg => absurd hseg List.not_mem_nil, ?_⟩
      rintro _ ⟨⟩ -
      exact (hs entries .self _ he hk).2
    | false =>
      have hplain := hv entries .self _ he hk
      rcases Pattern.leavesUnder_cases key value with ⟨nested, rfl, hn, -, hu⟩ | ⟨-, hu⟩
      · rw [hu] at hl
        obtain ⟨below, hb, rfl⟩ := List.mem_map.mp hl
        have hne := Pattern.path_ne_nil_of_mem_leavesOf hb
        obtain ⟨hplaced, htests⟩ := ih key nested he
          (hs.of_within (.inside (.nested he hk) .self)) (fun part hp => hv part (.nested he hk hp))
          below hb
        exact ⟨placed_under hplain hplaced hne, (Registry.tests_under_iff hne).mpr htests⟩
      · rw [hu, List.mem_singleton] at hl
        subst hl
        refine ⟨fun segment hseg => hplain segment (List.dropLast_subset _ hseg), ?_⟩
        intro last hlast hsigil
        rw [hplain last (List.mem_of_getLast? hlast)] at hsigil
        cases hsigil

/-! ### Kinds of entries -/

section Entries

variable {functions} {path : List String} {parent key : String}

theorem Restates.copied {old : List Leaf} (path : List String)
    (h : ∀ leaf ∈ old.map (.under path), Placed leaf ∧ (builtins functions).Tests leaf) :
    Restates functions path old (old.map (.under path)) := by
  refine ⟨fun subject => ?_, ⟨old, .refl _, ?_⟩, h⟩
  · rw [List.forall_mem_map]
    simp [Leaf.under]
  · rw [List.forall₂_map_left_iff, List.forall₂_same]
    exact fun leaf _ => List.prefix_refl _

theorem leavesOf_equation {literal : Value} (hk : hasSigil key = false)
    (hl : literal.record? = none) (hc : hasSigil (child parent key) = false) :
    leavesOf (clausesOfEntry parent key literal) =
      [⟨keyPath (child parent key) ++ ["$eq"], literal⟩] := by
  have hleaf : leavesOf [("$eq", literal)] = [⟨["$eq"], literal⟩] := by
    rw [leavesOf, leavesOf, List.append_nil, Pattern.leavesUnder_of_hasSigil (by decide)]
  rw [clausesOfEntry_literal hk hl, leavesOf, leavesOf, List.append_nil,
    Pattern.leavesUnder_record hc (List.cons_ne_nil _ _), hleaf]
  rfl

theorem Restates.equation {literal : Value} (hk : hasSigil key = false)
    (hl : literal.record? = none) (hc : hasSigil (child parent key) = false)
    (hpath : keyPath (child parent key) = path ++ keyPath key)
    (hplain : ∀ segment ∈ path ++ keyPath key, hasSigil segment = false) :
    Restates functions path (leavesUnder key (relaxEntry key literal))
      (leavesOf (clausesOfEntry parent key literal)) := by
  have hne : path ++ keyPath key ≠ [] := by simp [Pattern.keyPath_ne_nil]
  have hold : leavesUnder key (relaxEntry key literal) =
      [⟨keyPath key, if literal.isTruthy then literal else .record []⟩] := by
    rw [relaxEntry_literal hk hl]
    split
    · exact Pattern.leavesUnder_of_literal hl
    · exact Pattern.leavesUnder_empty key
  rw [hold, leavesOf_equation hk hl hc, hpath]
  refine ⟨fun subject => ?_, ⟨_, .refl _, .cons (List.prefix_append ..) .nil⟩, ?_⟩
  · rw [List.forall_mem_singleton, List.forall_mem_singleton,
      holdsAt_equation_iff functions hl hne hplain]
    cases literal.isTruthy with
    | true => simp
    | false => exact iff_of_true (holdsAt_empty functions hne hplain) (Or.inl rfl)
  · refine List.forall_mem_singleton.mpr ⟨fun segment hs => ?_, ?_⟩
    · rw [List.dropLast_concat] at hs
      exact hplain segment hs
    · intro last hlast _
      rw [List.getLast?_concat] at hlast
      cases hlast
      rfl

theorem Restates.clauses {nested : Entries} (hk : hasSigil key = false)
    (hn : (nested.any fun entry => hasSigil entry.1) = true)
    (hc : hasSigil (child parent key) = false)
    (hpath : keyPath (child parent key) = path ++ keyPath key)
    (hplain : ∀ segment ∈ path ++ keyPath key, hasSigil segment = false)
    (hs : Supported (builtins functions) (.record nested))
    (hv : ∀ part, Under part nested → Visible part) :
    Restates functions path (leavesUnder key (relaxEntry key (.record nested)))
      (leavesOf (clausesOfEntry parent key (.record nested))) := by
  have hne : nested ≠ [] := by
    rintro rfl
    cases hn
  have hclause : clausesOfEntry parent key (.record nested) =
      [(child parent key, .record nested)] :=
    clausesOfEntry_safe hk hn (fun entry he hsigil => (hs nested .self entry he hsigil).1) parent
  have hnew : leavesOf (clausesOfEntry parent key (.record nested)) =
      (leavesUnder key (.record nested)).map (.under path) := by
    rw [hclause, leavesOf, leavesOf, List.append_nil, Pattern.leavesUnder_record hc hne,
      Pattern.leavesUnder_record hk hne, hpath, List.map_map]
    exact List.map_congr_left fun leaf _ => (Leaf.under_under ..).symm
  rw [hnew, relaxEntry_clauses hn]
  refine .copied path fun leaf hm => ?_
  rw [← hnew, hclause, leavesOf, leavesOf, List.append_nil, Pattern.leavesUnder_record hc hne,
    hpath] at hm
  obtain ⟨below, hb, rfl⟩ := List.mem_map.mp hm
  have hnil := Pattern.path_ne_nil_of_mem_leavesOf hb
  obtain ⟨hplaced, htests⟩ := tests_of_supported hs hv below hb
  exact ⟨placed_under hplain hplaced hnil, (Registry.tests_under_iff hnil).mpr htests⟩

theorem Restates.clausesOf : ∀ {entries : Entries},
    (∀ entry ∈ entries, Restates functions path (leavesUnder entry.1 (relaxEntry entry.1 entry.2))
      (leavesOf (clausesOfEntry parent entry.1 entry.2))) →
      Restates functions path (leavesOf (relaxEntries entries))
        (leavesOf (clausesOf parent entries)) := by
  intro entries
  induction entries with
  | nil => intro _; exact .nil path
  | cons entry rest ih =>
    intro h
    rw [List.forall_mem_cons] at h
    obtain ⟨key, value⟩ := entry
    rw [relaxEntries, leavesOf, Selector.clausesOf, Pattern.leavesOf_append]
    exact h.1.append (ih h.2)

theorem Restates.empty (hk : hasSigil key = false)
    (hplain : ∀ segment ∈ path ++ keyPath key, hasSigil segment = false) :
    Restates functions path (leavesUnder key (relaxEntry key (.record [])))
      (leavesOf (clausesOfEntry parent key (.record []))) := by
  have hne : path ++ keyPath key ≠ [] := by simp [Pattern.keyPath_ne_nil]
  have hnew : leavesOf (clausesOfEntry parent key (.record [])) = [] := by
    simp [clausesOfEntry, hk, Selector.clausesOf, leavesOf]
  rw [relaxEntry_nested hk rfl, relaxEntries, Pattern.leavesUnder_empty, hnew]
  refine ⟨fun subject => ?_, ⟨[], List.nil_sublist _, .nil⟩, fun _ hm => absurd hm List.not_mem_nil⟩
  rw [List.forall_mem_singleton]
  simpa using holdsAt_empty functions hne hplain

/-- **The clauses of an entry restate its leaves**, falsy literals being relaxed. -/
theorem restates_clausesOfEntry : ∀ (value : Value) {path : List String} {parent key : String},
    hasSigil key = false → hasSigil (child parent key) = false →
      keyPath (child parent key) = path ++ keyPath key →
        (∀ segment ∈ path ++ keyPath key, hasSigil segment = false) →
          (child parent key = "" → ∀ nested, value = .record nested →
            nested = [] ∨ (nested.any fun entry => hasSigil entry.1) = true) →
            (∀ nested, value = .record nested → Supported (builtins functions) (.record nested) ∧
              ∀ part, Under part nested → Visible part) →
              Restates functions path (leavesUnder key (relaxEntry key value))
                (leavesOf (clausesOfEntry parent key value)) := by
  intro value
  induction value using Value.induct with
  | scalar v _ hr =>
    intro path parent key hk hc hpath hplain _ _
    exact .equation hk hr hc hpath hplain
  | array items _ =>
    intro path parent key hk hc hpath hplain _ _
    exact .equation hk rfl hc hpath hplain
  | record nested ih =>
    intro path parent key hk hc hpath hplain hroot hok
    obtain ⟨hs, hv⟩ := hok nested rfl
    cases hn : nested.any fun entry => hasSigil entry.1 with
    | true => exact .clauses hk hn hc hpath hplain hs hv
    | false =>
      by_cases hne : nested = []
      · subst hne
        exact .empty hk hplain
      · -- one level down, below the path of the key
        have hbelow : child parent key ≠ "" := fun he => by
          rcases hroot he nested rfl with h | h
          · exact hne h
          · rw [hn] at h; cases h
        have hrelaxed : relaxEntries nested ≠ [] := by
          rwa [relaxEntries_eq_map, ne_eq, List.map_eq_nil_iff]
        rw [relaxEntry_nested hk hn, Pattern.leavesUnder_record hk hrelaxed,
          clausesOfEntry_nested hk hn]
        refine Restates.under (Restates.clausesOf fun entry he => ?_)
        have hentry : hasSigil entry.1 = false := by
          rw [List.any_eq_false] at hn
          simpa using hn entry he
        have hsegments := keyPath_child hbelow hc hentry
        refine ih entry he hentry (hasSigil_child hc hentry) (by rw [hsegments, hpath]) ?_
          (fun h => absurd h (child_ne_empty hbelow)) ?_
        · intro segment hseg
          rcases List.mem_append.mp hseg with hseg | hseg
          · exact hplain segment hseg
          · exact hv nested .self entry he hentry segment hseg
        · intro inner hi
          have hmem : (entry.1, Value.record inner) ∈ nested := hi ▸ he
          exact ⟨hs.of_within (.inside (.nested hmem hentry) .self),
            fun part hp => hv part (.nested hmem hentry hp)⟩

end Entries

end RecordQuery.Selector

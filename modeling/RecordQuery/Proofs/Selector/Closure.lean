import RecordQuery.Proofs.Selector.Clauses

/-!
# Operators in a normalized selector

A store should see the operators of the safe dialect only.  Rewriting looks at the keys of the
selector, at those of its clauses, and at the elements of `$and`, `$or` and `$nor`.  The argument of
`$not` or `$elemMatch` and what is nested in a clause are copied as they stand, and with them
whatever operators they hold.

* `Selector.Within`, `Selector.Closed`: the patterns inside a selector, and that all their operators
  are safe.
* `Selector.Copied`: the patterns that rewriting copies unseen.
* `Selector.closed_normalize_iff`: only they bring operators outside the dialect along.
* `Selector.not_closed_normalize`: and they do.
-/

namespace RecordQuery.Selector

open RecordQuery.Path (hasSigil child)

/-! ### Positions of patterns -/

/-- The operators whose argument is a single selector. -/
def nesters : List String := ["$not", "$elemMatch"]

/-- The patterns directly below the entries of a pattern. -/
inductive Inside (entries : Entries) : Value → Prop
  | nested {key v} : (key, v) ∈ entries → hasSigil key = false → Inside entries v
  | item {key items v} : (key, .array items) ∈ entries → key ∈ combinators → v ∈ items →
      Inside entries v
  | argument {key v} : (key, v) ∈ entries → key ∈ nesters → Inside entries v

/-- A selector and the patterns below its entries, at any depth. -/
inductive Within (part : Value) : Value → Prop
  | self : Within part part
  | inside {entries v} : Inside entries v → Within part v → Within part (.record entries)

/-- All operators at a pattern position of the selector are safe. -/
def Closed (selector : Value) : Prop :=
  ∀ entries, Within (.record entries) selector →
    ∀ entry ∈ entries, hasSigil entry.1 = true → isSafe entry.1 = true

/-- The patterns that rewriting copies into the result without looking at them. -/
inductive Copied (part : Value) : Value → Prop
  | argument {entries key} : (key, part) ∈ collect "" entries [] → key ∈ nesters →
      Copied part (.record entries)
  | clause {entries path clauses} : (path, .record clauses) ∈ collect "" entries [] →
      hasSigil path = false → Inside clauses part → Copied part (.record entries)
  | item {entries key items item} : (key, .array items) ∈ entries →
      (key, .array (normalizeItems items)) ∈ collect "" entries [] → key ∈ combinators →
        item ∈ items → Copied part item → Copied part (.record entries)

theorem Within.trans {first second third : Value} (h : Within first second)
    (g : Within second third) : Within first third := by
  induction g with
  | self => exact h
  | inside hi _ ih => exact .inside hi ih

theorem Closed.of_within {part selector : Value} (h : Closed selector) (hw : Within part selector) :
    Closed part := fun entries he => h entries (he.trans hw)

theorem closed_record_iff {entries : Entries} :
    Closed (.record entries) ↔
      (∀ entry ∈ entries, hasSigil entry.1 = true → isSafe entry.1 = true) ∧
        ∀ part, Inside entries part → Closed part := by
  constructor
  · exact fun h => ⟨h entries .self, fun part hp => h.of_within (.inside hp .self)⟩
  · rintro ⟨hown, hall⟩ inner hw
    cases hw with
    | self => exact hown
    | inside hi hw => exact hall _ hi inner hw

theorem closed_of_literal {literal : Value} (h : literal.record? = none) : Closed literal := by
  intro entries hw
  cases hw with
  | self => cases h
  | inside => cases h

/-! ### Keys -/

theorem isUnsafe_eq_false_iff {key : String} :
    isUnsafe key = false ↔ (hasSigil key = true → isSafe key = true) := by
  rw [isUnsafe]
  cases hasSigil key <;> cases isSafe key <;> simp

theorem any_isUnsafe_eq_false_iff {entries : Entries} :
    (entries.any fun entry => isUnsafe entry.1) = false ↔
      ∀ entry ∈ entries, hasSigil entry.1 = true → isSafe entry.1 = true := by
  simp only [List.any_eq_false, Bool.not_eq_true, isUnsafe_eq_false_iff]

theorem clausesOfEntry_safe {key : String} {nested : Entries} (hk : hasSigil key = false)
    (hn : (nested.any fun entry => hasSigil entry.1) = true)
    (hsafe : ∀ entry ∈ nested, hasSigil entry.1 = true → isSafe entry.1 = true) (parent : String) :
    clausesOfEntry parent key (.record nested) = [(child parent key, .record nested)] := by
  rw [clausesOfEntry_clauses hk hn, any_isUnsafe_eq_false_iff.mpr hsafe, if_neg Bool.false_ne_true]

theorem hasSigil_of_mem_combinators {key : String} (h : key ∈ combinators) :
    hasSigil key = true := (by decide : ∀ k ∈ combinators, hasSigil k = true) key h

theorem hasSigil_of_mem_nesters {key : String} (h : key ∈ nesters) : hasSigil key = true :=
  (by decide : ∀ k ∈ nesters, hasSigil k = true) key h

theorem not_mem_combinators_of_mem_nesters {key : String} (h : key ∈ nesters) :
    key ∉ combinators := (by decide : ∀ k ∈ nesters, k ∉ combinators) key h

theorem hasSigil_child {parent segment : String} (hp : hasSigil parent = false)
    (hs : hasSigil segment = false) : hasSigil (child parent segment) = false := by
  rw [child]
  split
  · exact hs
  · next hne =>
    rw [hasSigil, String.toList_append, String.toList_append, List.append_assoc,
      List.head?_append_of_ne_nil]
    · exact hp
    · simpa using hne

theorem normalizeArgument_of_not_mem {key : String} (h : key ∉ combinators) (v : Value) :
    normalizeArgument key v = v := by
  cases v with
  | array items => rw [normalizeArgument, if_neg]; simpa using h
  | _ => rfl

theorem normalizeArgument_array {key : String} (h : key ∈ combinators) (items : List Value) :
    normalizeArgument key (.array items) = .array (normalizeItems items) := by
  rw [normalizeArgument, if_pos]
  simpa using h

/-! ### The clauses of a selector -/

/-- **Everything that a clause can be**: a safe operator, an equation, or a record of the selector
whose own operators are safe. -/
theorem mem_clausesOf_cases {clause : String × Value} : ∀ {entries : Entries} {parent : String},
    hasSigil parent = false → clause ∈ clausesOf parent entries →
      (isSafe clause.1 = true ∧ ∃ argument, (clause.1, argument) ∈ entries ∧
        hasSigil clause.1 = true ∧ clause.2 = normalizeArgument clause.1 argument) ∨
      (hasSigil clause.1 = false ∧ ∃ literal, clause.2 = .record [("$eq", literal)]) ∨
      (hasSigil clause.1 = false ∧ ∃ nested, clause.2 = .record nested ∧
        Within (.record nested) (.record entries) ∧
          ∀ entry ∈ nested, isUnsafe entry.1 = false) := by
  intro entries
  induction entries using Value.induct_entries with
  | step entries ih =>
    intro parent hp h
    obtain ⟨⟨key, value⟩, he, hc⟩ := mem_clausesOf.mp h
    cases hk : hasSigil key with
    | true =>
      rw [clausesOfEntry_operator hk] at hc
      split at hc
      · next hs =>
        obtain rfl := List.mem_singleton.mp hc
        exact Or.inl ⟨hs, value, he, hk, rfl⟩
      · cases hc
    | false =>
      have hpath := hasSigil_child hp hk
      cases hr : value.record? with
      | none =>
        rw [clausesOfEntry_literal hk hr] at hc
        obtain rfl := List.mem_singleton.mp hc
        exact Or.inr (Or.inl ⟨hpath, value, rfl⟩)
      | some nested =>
        obtain rfl := Value.record?_eq_some_iff.mp hr
        have hin : Within (.record nested) (.record entries) := .inside (.nested he hk) .self
        cases hn : nested.any fun entry => hasSigil entry.1 with
        | true =>
          rw [clausesOfEntry_clauses hk hn] at hc
          split at hc
          · cases hc
          · next hu =>
            obtain rfl := List.mem_singleton.mp hc
            refine Or.inr (Or.inr ⟨hpath, nested, rfl, hin, fun entry hm => ?_⟩)
            rw [Bool.not_eq_true, List.any_eq_false] at hu
            exact Bool.not_eq_true _ ▸ hu entry hm
        | false =>
          rw [clausesOfEntry_nested hk hn] at hc
          rcases ih key nested he hpath hc with ⟨-, _, hm, hs, -⟩ | heq | ⟨hs, inner, hv, hw, hu⟩
          · -- this record has no operators
            rw [List.any_eq_false] at hn
            have hnone := hn _ hm
            exact absurd hs hnone
          · exact Or.inr (Or.inl heq)
          · exact Or.inr (Or.inr ⟨hs, inner, hv, hw.trans hin, hu⟩)

theorem mem_clausesOf_operator {clause : String × Value} {entries : Entries} {parent : String}
    (hp : hasSigil parent = false) (h : clause ∈ clausesOf parent entries)
    (hs : hasSigil clause.1 = true) :
    isSafe clause.1 = true ∧ ∃ argument, (clause.1, argument) ∈ entries ∧
      clause.2 = normalizeArgument clause.1 argument := by
  rcases mem_clausesOf_cases hp h with ⟨hsafe, argument, hm, -, hv⟩ | ⟨hn, -⟩ | ⟨hn, -⟩
  · exact ⟨hsafe, argument, hm, hv⟩
  · rw [hs] at hn; cases hn
  · rw [hs] at hn; cases hn

theorem mem_clausesOf_path {clause : String × Value} {entries : Entries} {parent : String}
    (hp : hasSigil parent = false) (h : clause ∈ clausesOf parent entries)
    (hs : hasSigil clause.1 = false) :
    (∃ literal, clause.2 = .record [("$eq", literal)]) ∨
      ∃ nested, clause.2 = .record nested ∧ Within (.record nested) (.record entries) ∧
        ∀ entry ∈ nested, isUnsafe entry.1 = false := by
  rcases mem_clausesOf_cases hp h with ⟨-, _, -, hn, -⟩ | ⟨-, heq⟩ | ⟨-, hnested⟩
  · rw [hs] at hn; cases hn
  · exact Or.inl heq
  · exact Or.inr hnested

theorem not_inside_equation (literal part : Value) : ¬ Inside [("$eq", literal)] part := by
  intro h
  cases h with
  | nested hm hs => cases List.mem_singleton.mp hm; cases hs
  | item hm hk => cases List.mem_singleton.mp hm; exact absurd hk (by decide)
  | argument hm hk => cases List.mem_singleton.mp hm; exact absurd hk (by decide)

theorem closed_equation (literal : Value) : Closed (.record [("$eq", literal)]) :=
  closed_record_iff.mpr
    ⟨List.forall_mem_singleton.mpr fun _ => (by decide : isSafe "$eq" = true),
      fun part hi => absurd hi (not_inside_equation literal part)⟩

theorem mem_clausesOf_of_mem_collect {clause : String × Value} {entries : Entries}
    (h : clause ∈ collect "" entries []) : clause ∈ clausesOf "" entries := by
  rw [collect_nil_eq_ofList] at h
  exact Assoc.mem_of_mem_ofList h

theorem within_of_copied {part raw : Value} (h : Copied part raw) : Within part raw := by
  induction h with
  | @argument entries key hc hk =>
    obtain ⟨-, argument, hm, hv⟩ := mem_clausesOf_operator (by decide)
      (mem_clausesOf_of_mem_collect hc) (hasSigil_of_mem_nesters hk)
    rw [normalizeArgument_of_not_mem (not_mem_combinators_of_mem_nesters hk)] at hv
    subst hv
    exact .inside (.argument hm hk) .self
  | @clause entries path clauses hc hp hi =>
    rcases mem_clausesOf_path (by decide) (mem_clausesOf_of_mem_collect hc) hp with
      ⟨literal, hv⟩ | ⟨nested, hv, hw, -⟩
    · cases hv
      exact absurd hi (not_inside_equation _ _)
    · cases hv
      exact (Within.inside hi .self).trans hw
  | item hm _ hk hi _ ih => exact .inside (.item hm hk hi) ih

/-- The keys of clauses and of the records under them are safe. -/
theorem closed_normalize : ∀ raw : Value, (∀ part, Copied part raw → Closed part) →
    Closed (normalize raw) := by
  intro raw
  induction raw using Selector.induct with
  | literal v hv =>
    intro _
    cases v with
    | record => cases hv
    | _ => exact closed_of_literal rfl
  | record entries ih =>
    intro h
    rw [normalize, closed_record_iff]
    refine ⟨fun clause hc hs => ?_, fun part hi => ?_⟩
    · exact (mem_clausesOf_operator (by decide) (mem_clausesOf_of_mem_collect hc) hs).1
    · cases hi with
      | @nested path v hc hs =>
        -- a path, with an equation or a record of the selector
        rcases mem_clausesOf_path (by decide) (mem_clausesOf_of_mem_collect hc) hs with
          ⟨literal, hv⟩ | ⟨nested, hv, -, hsafe⟩
        · dsimp only at hv
          exact hv ▸ closed_equation literal
        · dsimp only at hv
          subst hv
          exact closed_record_iff.mpr ⟨fun entry he => isUnsafe_eq_false_iff.mp (hsafe entry he),
            fun inner hi => h inner (.clause hc hs hi)⟩
      | @item key items v hc hk hm =>
        -- a combinator, whose elements are rewritten
        obtain ⟨-, argument, ha, hv⟩ := mem_clausesOf_operator (by decide)
          (mem_clausesOf_of_mem_collect hc) (hasSigil_of_mem_combinators hk)
        dsimp only at hv ha
        cases argument with
        | array given =>
          rw [normalizeArgument_array hk] at hv
          cases hv
          obtain ⟨item, hi, rfl⟩ := mem_normalizeItems.mp hm
          exact ih key given item ha hi fun inner hin => h inner (.item ha hc hk hi hin)
        | _ => cases hv
      | argument hc hk => exact h part (.argument hc hk)

theorem closed_normalize_of_closed {raw : Value} (h : Closed raw) : Closed (normalize raw) :=
  closed_normalize raw fun _ hc => h.of_within (within_of_copied hc)

/-- **Exactly the copied patterns can bring unsafe operators along.**  A normalized selector is
closed when the patterns that rewriting copies unseen are closed; and these are patterns of the
selector itself. -/
theorem closed_normalize_iff (raw : Value) :
    (Closed (normalize raw) ↔ ∀ part, Copied part raw → Closed part) ∧
      ∀ part, Copied part raw → Within part raw := by
  refine ⟨⟨fun h part hc => ?_, closed_normalize raw⟩, fun part => within_of_copied⟩
  induction hc with
  | argument hc hk =>
    rw [normalize] at h
    exact h.of_within (.inside (.argument hc hk) .self)
  | clause hc hp hi =>
    rw [normalize] at h
    exact h.of_within (.inside (.nested hc hp) (.inside hi .self))
  | item _ hc hk hi _ ih =>
    rw [normalize] at h
    exact ih (h.of_within (.inside (.item hc hk (mem_normalizeItems.mpr ⟨_, hi, rfl⟩)) .self))

/-- The argument of `$not` is copied, here with an operator that no store understands. -/
theorem not_closed_normalize :
    ¬ Closed (normalize
      (.record [("$not", .record [("$where", .string "1 == 1")])])) := by
  have hcopied : normalize (.record [("$not", .record [("$where", .string "1 == 1")])]) =
      .record [("$not", .record [("$where", .string "1 == 1")])] := by rfl
  rw [hcopied]
  intro h
  have hsafe := h [("$where", .string "1 == 1")]
    (.inside (.argument List.mem_cons_self (by decide)) .self) _ List.mem_cons_self (by decide)
  exact absurd hsafe (by decide)

end RecordQuery.Selector

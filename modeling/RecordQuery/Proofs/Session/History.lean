import Mathlib.Data.List.Forall2
import RecordQuery.Proofs.Session.Lineage
import RecordQuery.Session

/-!
# Sessions and the history of their registries

A session has an engine, saved copies of engines, and the registry from which new engines start.
Copies have the lineage of what they are copies of, and a registration goes into the lineage of one
registry only.

* `Session.run`, `Ancestry.run`: the registries and their lineages after a list of steps.
* `Session.perform_eq_error_iff`: the steps that fail.
* `Session.follows_next`, `Session.follows_run`: a step and a run keep registries and lineages
  together.
* `Session.shared_run_filter`, `Session.own_run_filter`, `Session.saved_isPrefix_run`: the
  registries on which a step has no effect.
* `Session.registries_of_run`: what holds of all registries that a session can reach.
-/

namespace RecordQuery

open RecordQuery.Path (hasSigil)

/-! ### Sessions -/

/-- The lineages of the registries of a session. -/
structure Ancestry where
  engine : Lineage
  saved : List Lineage
  shared : Lineage

namespace Session

/-- The registration that a step makes on the engine. -/
def Step.own? : Step → Option Registration
  | .registerPredicate name predicate => some (.predicate name predicate)
  | .registerTransform name transform => some (.transform name transform)
  | _ => none

/-- The registration that a step makes on the shared registry. -/
def Step.shared? : Step → Option Registration
  | .sharePredicate name predicate => some (.predicate name predicate)
  | .shareTransform name transform => some (.transform name transform)
  | _ => none

/-- The registration that a step makes. -/
def Step.registration? (step : Step) : Option Registration := step.own?.or step.shared?

/-- Whether a step makes an engine from the shared registry. -/
def Step.isFresh : Step → Bool
  | .fresh => true
  | _ => false

variable (functions : Functions)

/-- The session after a step; a step that fails leaves it as it is. -/
def next (session : Session) (step : Step) : Session :=
  match session.perform functions step with
  | .ok session => session
  | .error _ => session

/-- The session after a list of steps. -/
def run (session : Session) (steps : List Step) : Session := steps.foldl (next functions) session

/-- All registries of a session. -/
def registries (session : Session) : List Registry :=
  session.engine :: session.shared :: session.saved

end Session

namespace Ancestry

variable (functions : Functions)

/-- The lineages at the start of a session. -/
def initial : Ancestry :=
  { engine := .ofOrigin (.builtins functions), saved := []
    shared := .ofOrigin (.builtins functions) }

/-- The lineages after a step.  Copies have the lineage of what they are copies of. -/
def next (ancestry : Ancestry) : Session.Step → Ancestry
  | .fresh => { ancestry with engine := ancestry.shared }
  | .empty => { ancestry with engine := .ofOrigin .empty }
  | .builtins => { ancestry with engine := .ofOrigin (.builtins functions) }
  | .save => { ancestry with saved := ancestry.saved ++ [ancestry.engine] }
  | .restore index => { ancestry with engine := ancestry.saved.getD index ancestry.engine }
  | .registerPredicate name predicate =>
    { ancestry with engine := ancestry.engine.register (.predicate name predicate) }
  | .registerTransform name transform =>
    { ancestry with engine := ancestry.engine.register (.transform name transform) }
  | .sharePredicate name predicate =>
    { ancestry with shared := ancestry.shared.register (.predicate name predicate) }
  | .shareTransform name transform =>
    { ancestry with shared := ancestry.shared.register (.transform name transform) }

/-- The lineages after a list of steps. -/
def run (ancestry : Ancestry) (steps : List Session.Step) : Ancestry :=
  steps.foldl (next functions) ancestry

end Ancestry

namespace Session

section

variable {functions : Functions} {session : Session} {ancestry : Ancestry} {step : Step}
  {made : Registration}

theorem perform_of_own (h : step.own? = some made) :
    session.perform functions step =
      (session.engine.register made).map fun engine => { session with engine } := by
  cases step with
  | registerPredicate | registerTransform => cases h; rfl
  | _ => cases h

theorem perform_of_shared (h : step.shared? = some made) :
    session.perform functions step =
      (session.shared.register made).map fun shared => { session with shared } := by
  cases step with
  | sharePredicate | shareTransform => cases h; rfl
  | _ => cases h

theorem next_of_own (h : step.own? = some made) :
    session.next functions step = { session with engine := session.engine.after made } := by
  rw [next, perform_of_own h, Registry.after]
  cases session.engine.register made <;> rfl

theorem next_of_shared (h : step.shared? = some made) :
    session.next functions step = { session with shared := session.shared.after made } := by
  rw [next, perform_of_shared h, Registry.after]
  cases session.shared.register made <;> rfl

theorem map_eq_error_iff {ε α β : Type} {result : Except ε α} {f : α → β} {e : ε} :
    result.map f = .error e ↔ result = .error e := by
  cases result <;> simp [Except.map]

/-- A step fails if it makes a registration under a name that is not valid, and only then. -/
theorem perform_eq_error_iff {e : RegistryError} :
    session.perform functions step = .error e ↔
      ∃ made, step.registration? = some made ∧ Registry.isValidName made.name = false ∧
        e = .invalidName made.sort made.name := by
  cases hown : step.own? with
  | some made =>
    rw [perform_of_own hown, map_eq_error_iff, Registry.register_eq_error_iff]
    simp [Step.registration?, hown]
  | none =>
    cases hshared : step.shared? with
    | some made =>
      rw [perform_of_shared hshared, map_eq_error_iff, Registry.register_eq_error_iff]
      simp [Step.registration?, hown, hshared]
    | none =>
      have hok : session.perform functions step ≠ .error e := by
        cases step with
        | registerPredicate | registerTransform => cases hown
        | sharePredicate | shareTransform => cases hshared
        | _ => rintro ⟨⟩
      simp [Step.registration?, hown, hshared, hok]

/-! ### Registries and lineages -/

/-- The registries of a session follow their lineages. -/
structure Follows (session : Session) (ancestry : Ancestry) : Prop where
  engine : session.engine.Follows ancestry.engine
  saved : List.Forall₂ Registry.Follows session.saved ancestry.saved
  shared : session.shared.Follows ancestry.shared

theorem getD_of_forall₂ {α β : Type} {R : α → β → Prop} {as : List α} {bs : List β} {a : α} {b : β}
    (h : List.Forall₂ R as bs) (hab : R a b) (index : Nat) :
    R (as.getD index a) (bs.getD index b) := by
  induction h generalizing index with
  | nil => exact hab
  | cons hhead _ ih =>
    cases index with
    | zero => exact hhead
    | succ index => exact ih index

theorem forall_mem_of_forall₂ {α β : Type} {R : α → β → Prop} {P : α → Prop} {as : List α}
    {bs : List β} (h : List.Forall₂ R as bs) (hP : ∀ a b, R a b → P a) : ∀ a ∈ as, P a := by
  induction h with
  | nil => exact fun _ hm => absurd hm List.not_mem_nil
  | cons hhead _ ih => exact List.forall_mem_cons.mpr ⟨hP _ _ hhead, ih⟩

/-- **A step keeps registries and lineages together.** -/
theorem follows_next (h : session.Follows ancestry) (step : Step) :
    (session.next functions step).Follows (ancestry.next functions step) := by
  cases step with
  | fresh => exact { h with engine := h.shared }
  | empty => exact { h with engine := Registry.follows_ofOrigin Registry.valid_empty }
  | builtins =>
    exact { h with engine := Registry.follows_ofOrigin (Registry.valid_builtins functions) }
  | save => exact { h with saved := List.rel_append h.saved (.cons h.engine .nil) }
  | restore index => exact { h with engine := getD_of_forall₂ h.saved h.engine index }
  | registerPredicate name operator =>
    rw [next_of_own rfl]
    exact { h with engine := h.engine.after (.predicate name operator) }
  | registerTransform name operator =>
    rw [next_of_own rfl]
    exact { h with engine := h.engine.after (.transform name operator) }
  | sharePredicate name operator =>
    rw [next_of_shared rfl]
    exact { h with shared := h.shared.after (.predicate name operator) }
  | shareTransform name operator =>
    rw [next_of_shared rfl]
    exact { h with shared := h.shared.after (.transform name operator) }

theorem follows_initial (functions : Functions) :
    (initial functions).Follows (.initial functions) :=
  have h := Registry.follows_ofOrigin (Registry.valid_builtins functions)
  { engine := h, saved := .nil, shared := h }

/-- **A run keeps registries and lineages together.** -/
theorem follows_run (h : session.Follows ancestry) (steps : List Step) :
    (session.run functions steps).Follows (ancestry.run functions steps) := by
  induction steps generalizing session ancestry with
  | nil => exact h
  | cons step steps ih => exact ih (follows_next h step)

theorem Follows.valid (h : session.Follows ancestry) :
    ∀ registry ∈ session.registries, registry.Valid := by
  rw [registries, List.forall_mem_cons, List.forall_mem_cons]
  refine ⟨h.engine.valid, h.shared.valid, fun registry hm => ?_⟩
  exact forall_mem_of_forall₂ h.saved (fun _ _ hf => hf.valid) registry hm

end

/-! ### Steps without effect -/

section

variable {functions : Functions}

/-- The engine and its copies. -/
def own (session : Session) : Registry × List Registry := (session.engine, session.saved)

theorem own_next {s t : Session} {step : Step} (hstep : step.isFresh = false) (h : s.own = t.own) :
    (s.next functions step).own = (t.next functions step).own := by
  obtain ⟨engine, saved, shared⟩ := s
  obtain ⟨_, _, shared'⟩ := t
  obtain ⟨rfl, rfl⟩ := Prod.mk.inj h
  cases step with
  | fresh => cases hstep
  | registerPredicate | registerTransform => rw [next_of_own rfl, next_of_own rfl]; rfl
  | sharePredicate | shareTransform => rw [next_of_shared rfl, next_of_shared rfl]; rfl
  | _ => rfl

theorem own_next_of_shared {session : Session} {step : Step} (h : step.shared?.isSome = true) :
    (session.next functions step).own = session.own := by
  obtain ⟨made, hmade⟩ := Option.isSome_iff_exists.mp h
  rw [next_of_shared hmade]
  rfl

theorem shared_next {s t : Session} (step : Step) (h : s.shared = t.shared) :
    (s.next functions step).shared = (t.next functions step).shared := by
  obtain ⟨engine, saved, shared⟩ := s
  obtain ⟨engine', saved', _⟩ := t
  obtain rfl : shared = _ := h
  cases step with
  | registerPredicate | registerTransform => rw [next_of_own rfl, next_of_own rfl]
  | sharePredicate | shareTransform => rw [next_of_shared rfl, next_of_shared rfl]
  | _ => rfl

theorem shared_next_of_not_shared {session : Session} {step : Step}
    (h : step.shared?.isSome = false) : (session.next functions step).shared = session.shared := by
  cases step with
  | registerPredicate | registerTransform => rw [next_of_own rfl]
  | sharePredicate | shareTransform => cases h
  | _ => rfl

/-- A part of sessions that some steps leave alone depends only on the others. -/
theorem part_run_filter {α : Type} (part : Session → α) (keep allowed : Step → Bool)
    (kept : ∀ {s t step}, allowed step = true → part s = part t →
      part (s.next functions step) = part (t.next functions step))
    (skipped : ∀ {s step}, keep step = false → part (s.next functions step) = part s)
    {steps : List Step} (hsteps : ∀ step ∈ steps, allowed step = true) (session : Session) :
    part (session.run functions steps) = part (session.run functions (steps.filter keep)) := by
  have hrun : ∀ steps : List Step, (∀ step ∈ steps, allowed step = true) → ∀ s t : Session,
      part s = part t →
        part (s.run functions steps) = part (t.run functions (steps.filter keep)) := by
    intro steps
    induction steps with
    | nil => exact fun _ _ _ h => h
    | cons step steps ih =>
      intro hall s t h
      rw [List.forall_mem_cons] at hall
      cases hk : keep step with
      | true =>
        rw [List.filter_cons_of_pos hk]
        exact ih hall.2 _ _ (kept hall.1 h)
      | false =>
        rw [List.filter_cons_of_neg (by rw [hk]; decide)]
        exact ih hall.2 _ t ((skipped hk).trans h)
  exact hrun steps hsteps session session rfl

/-- What is done with engines never shows in the shared registry. -/
theorem shared_run_filter (session : Session) (steps : List Step) :
    (session.run functions steps).shared =
      (session.run functions (steps.filter (·.shared?.isSome))).shared :=
  part_run_filter Session.shared (·.shared?.isSome) (fun _ => true) (fun _ h => shared_next _ h)
    shared_next_of_not_shared (fun _ _ => rfl) session

/-- What is registered in the shared registry shows in new engines only. -/
theorem own_run_filter (session : Session) {steps : List Step}
    (h : ∀ step ∈ steps, step.isFresh = false) :
    (session.run functions steps).own =
      (session.run functions (steps.filter (·.shared?.isNone))).own := by
  refine part_run_filter own (·.shared?.isNone) (!·.isFresh) (fun hstep h => own_next ?_ h)
    (fun hk => own_next_of_shared ?_) (fun step hs => ?_) session
  · simpa using hstep
  · simpa using hk
  · rw [h step hs]; rfl

theorem saved_isPrefix_next (session : Session) (step : Step) :
    session.saved <+: (session.next functions step).saved := by
  have hkept : ∀ {t : Session}, t.saved = session.saved → session.saved <+: t.saved :=
    fun h => ⟨[], (List.append_nil _).trans h.symm⟩
  cases step with
  | save => exact List.prefix_append ..
  | registerPredicate | registerTransform => exact hkept (by rw [next_of_own rfl])
  | sharePredicate | shareTransform => exact hkept (by rw [next_of_shared rfl])
  | _ => exact List.prefix_rfl

/-- Copies stay as they were when they were saved. -/
theorem saved_isPrefix_run (session : Session) (steps : List Step) :
    session.saved <+: (session.run functions steps).saved := by
  induction steps generalizing session with
  | nil => exact List.prefix_rfl
  | cons step steps ih => exact (saved_isPrefix_next session step).trans (ih _)

end

/-! ### Sessions from their start -/

/-- The session that steps lead to from the start. -/
def reached (functions : Functions) (steps : List Step) : Session :=
  (initial functions).run functions steps

/-- The lineages of the session that steps lead to from the start. -/
def lineages (functions : Functions) (steps : List Step) : Ancestry :=
  (Ancestry.initial functions).run functions steps

theorem reached_append (functions : Functions) (steps more : List Step) :
    reached functions (steps ++ more) = (reached functions steps).run functions more :=
  List.foldl_append

/-- **The registries that a session can reach.**  Whatever the steps, all names begin with the sigil
and have more than one byte; lookup finds the latest registration of a lineage; a step fails for a
name that is not valid and then changes nothing; saved copies stay, what is done with engines does
not show in the shared registry, and what is registered there does not show in engines that are
there already; and a key without the sigil is the name of a field. -/
theorem registries_of_run (functions : Functions) (steps : List Step) :
    (∀ registry ∈ (reached functions steps).registries, ∀ name ∈ registry.names,
      hasSigil name = true ∧ 1 < name.utf8ByteSize) ∧
    (reached functions steps).Follows (lineages functions steps) ∧
    (∀ step e, (reached functions steps).perform functions step = .error e ↔
      ∃ made, step.registration? = some made ∧
        ¬(hasSigil made.name = true ∧ 1 < made.name.utf8ByteSize) ∧
        e = .invalidName made.sort made.name) ∧
    (∀ step e, (reached functions steps).perform functions step = .error e →
      reached functions (steps ++ [step]) = reached functions steps) ∧
    (∀ more, (reached functions steps).saved <+: (reached functions (steps ++ more)).saved ∧
      (reached functions (steps ++ more)).shared =
        (reached functions (steps ++ more.filter (·.shared?.isSome))).shared ∧
      ((∀ step ∈ more, step.isFresh = false) → (reached functions (steps ++ more)).own =
        (reached functions (steps ++ more.filter (·.shared?.isNone))).own)) ∧
    (∀ registry ∈ (reached functions steps).registries, ∀ key, hasSigil key = false →
      registry.ReadsField key) := by
  have hfollows : (reached functions steps).Follows (lineages functions steps) :=
    follows_run (follows_initial functions) steps
  have hvalid := hfollows.valid
  refine ⟨fun registry hr name hm => ?_, hfollows, fun step e => ?_, fun step e he => ?_,
    fun more => ?_, fun registry hr key hk => (hvalid registry hr).readsField hk⟩
  · exact (Registry.isValidName_iff name).mp (hvalid registry hr name hm)
  · rw [perform_eq_error_iff]
    simp only [← Registry.isValidName_iff, Bool.not_eq_true]
  · rw [reached_append]
    show next functions (reached functions steps) step = reached functions steps
    rw [next, he]
  · simp only [reached_append]
    exact ⟨saved_isPrefix_run _ more, shared_run_filter _ more, own_run_filter _⟩

example (functions : Functions) (even : Predicate) :
    (reached functions [.sharePredicate "$even" even]).engine.predicate? "$even" = none ∧
      (reached functions [.sharePredicate "$even" even, .fresh]).engine.predicate? "$even" =
        some even := ⟨rfl, rfl⟩

end Session

end RecordQuery

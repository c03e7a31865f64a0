import Mathlib.Logic.Relation
import RecordQuery.Proofs.Pattern.Frames

/-!
# Writes that depend on what is there

A transform can leave its writes to a function of the record they are made to, the key they go to,
and the value that was there.  At the root the value is looked up at the key.  Under a field it is
the subject, the value that was found at the field, with what the entries in front have made of it:
the key may be another one, given by an alias.

* `Call`: what such a function is applied to.  `Call.SeesSlot`: the value is that of the record at
  the key.
* `Registry.Defers`: the calls in the evaluation of a frame.  `Registry.step_of_defers`: what is
  made of them.
* `Registry.subject_of_enters`: the subject of a frame is the value at the field that it was found
  under.
* `Registry.Flat`, `Registry.value_of_run`: under a field only nested patterns change the subject.
* `Registry.AllSeeSlots`, `Registry.evaluate?_lookingUp`: then the functions might look the value up
  by themselves.
* `Registry.deferred_calls`: the calls that see their slot.
-/

namespace RecordQuery

open Pattern (expand)

/-- What the function of deferred writes is applied to. -/
structure Call where
  record : Value
  key : String
  previous : Value

/-- The value that is handed over is the one that the record holds at the key. -/
def Call.SeesSlot (call : Call) : Prop := call.previous = call.record.field call.key

/-- The result of writes; at the root they are made at once. -/
def Outcome.ofWrites (subject : Value) (scope : Option Scope) (writes : List Assignment) :
    Outcome :=
  match scope with
  | some _ => { value := subject, assignments := writes, edits := [] }
  | none =>
    { value := assignAll subject writes, assignments := [], edits := writes.map .ofAssignment }

namespace Projection

/-- The call that a deferred projection leads to; at the root there is none without a record and an
alias. -/
def call? (subject options : Value) : Option Scope → Option Call
  | some place =>
    some
      { record := place.holder
        key := (alias? options).getD place.property
        previous := subject }
  | none =>
    match alias? options, subject with
    | some target, .record _ =>
      some { record := subject, key := target, previous := subject.field target }
    | _, _ => none

theorem effect_deferred (subject options : Value) (scope : Option Scope)
    (writes : (record : Value) → (key : String) → (previous : Value) → List Assignment) :
    (deferred writes).effect subject options scope =
      some (match call? subject options scope with
        | some call => .ofWrites subject scope (writes call.record call.key call.previous)
        | none => .unchanged subject) := by
  cases scope with
  | some place => rfl
  | none =>
    simp only [effect, atRoot, call?]
    cases alias? options with
    | none => rfl
    | some target => cases subject <;> rfl

theorem seesSlot_of_call?_none {subject options : Value} {call : Call}
    (h : call? subject options none = some call) : call.SeesSlot := by
  simp only [call?] at h
  split at h
  · cases h
    rfl
  · cases h

end Projection

/-- The transform with functions of deferred writes that look the value up by themselves. -/
def Transform.lookingUp (transform : Transform) : Transform :=
  { apply := fun subject options around =>
      match transform.apply subject options around with
      | .deferred writes => .deferred fun record key _ => writes record key (record.field key)
      | projection => projection }

namespace Registry

/-- The registry with such transforms. -/
def lookingUp (registry : Registry) : Registry :=
  { registry with
    transforms := registry.transforms.map fun entry => (entry.1, entry.2.lookingUp) }

variable (registry : Registry)

/-- The evaluation of a frame comes to a transform that defers its writes, and calls their
function. -/
structure Defers (frame : Frame) (key : String) (argument subject : Value) (call : Call) :
    Prop where
  reaches : registry.Reaches frame key argument subject
  no_predicate : registry.predicate? key = none
  defers : ∃ transform writes, registry.transform? key = some transform ∧
    transform.apply subject argument (registry.surroundings frame.scope argument) = .deferred writes
  is_call : Projection.call? subject argument frame.scope = some call

/-- All calls in the evaluation of a pattern see their slot. -/
def AllSeeSlots (data : Value) (pattern : Entries) : Prop :=
  ∀ frame, Relation.ReflTransGen registry.Enters (.root data pattern) frame →
    ∀ key argument subject call, registry.Defers frame key argument subject call → call.SeesSlot

/-- There are no nested patterns among the entries. -/
def Flat (entries : Entries) : Prop :=
  ∀ entry ∈ entries, registry.isOperator entry.1 = true ∨ entry.2.record? = none

variable {registry}

/-- The result of the entry is that of the writes for the call. -/
theorem step_of_defers {frame : Frame} {key : String} {argument subject : Value} {call : Call}
    (h : registry.Defers frame key argument subject call) :
    ∃ transform writes, registry.transform? key = some transform ∧
      transform.apply subject argument (registry.surroundings frame.scope argument) =
        .deferred writes ∧
      registry.step subject frame.scope key argument =
        some (.ofWrites subject frame.scope (writes call.record call.key call.previous)) := by
  obtain ⟨transform, writes, ht, hdefers⟩ := h.defers
  refine ⟨transform, writes, ht, hdefers, ?_⟩
  rw [step_of_transform h.no_predicate ht, hdefers, Projection.effect_deferred, h.is_call]

/-! ### Under a field -/

/-- The subject of a frame is the value at the field that it was found under. -/
theorem subject_of_enters {frame next : Frame} (h : registry.Enters frame next) {place : Scope}
    (hplace : next.scope = some place) : next.subject = place.holder.field place.property := by
  cases h with
  | nested =>
    cases hplace
    rfl
  | consulted => cases hplace

theorem subject_of_reached {data : Value} {pattern : Entries} {frame : Frame}
    (h : Relation.ReflTransGen registry.Enters (.root data pattern) frame) {place : Scope}
    (hplace : frame.scope = some place) : frame.subject = place.holder.field place.property := by
  cases h with
  | refl => cases hplace
  | tail _ hlast => exact subject_of_enters hlast hplace

theorem value_of_step {subject : Value} {place : Scope} {key : String} {argument : Value}
    (hflat : registry.isOperator key = true ∨ argument.record? = none) {outcome : Outcome}
    (h : registry.step subject (some place) key argument = some outcome) :
      outcome.value = subject := by
  rcases step_cases h with ⟨-, -, -, rfl⟩ | ⟨transform, -, -, heffect⟩ |
    ⟨nested, inner, hp, ht, rfl, -, -⟩ | ⟨-, -, -, -, rfl⟩
  · rfl
  · exact (Projection.edits_of_inField heffect).1
  · have hfield := isOperator_eq_false_iff.mpr ⟨hp, ht⟩
    rcases hflat with hflat | hflat
    · rw [hfield] at hflat
      cases hflat
    · cases hflat
  · rfl

/-- Entries that are no nested patterns leave the subject as it is, under a field. -/
theorem value_of_run {place : Scope} : ∀ {entries : Entries} {subject : Value} {outcome : Outcome},
    registry.Flat entries → registry.run subject (some place) entries = some outcome →
      outcome.value = subject := by
  intro entries
  induction entries with
  | nil =>
    intro subject outcome _ h
    rw [run_nil, Option.some.injEq] at h
    rw [← h, Outcome.unchanged_value]
  | cons entry rest ih =>
    obtain ⟨key, argument⟩ := entry
    intro subject outcome hflat h
    rw [Flat, List.forall_mem_cons] at hflat
    obtain ⟨first, second, hfirst, hsecond, rfl⟩ := run_cons_eq_some _ h
    rw [Outcome.followedBy_value, ih hflat.2 hsecond, value_of_step hflat.1 hfirst]

/-! ### Functions that look up the value -/

theorem predicate?_lookingUp (key : String) :
    registry.lookingUp.predicate? key = registry.predicate? key := rfl

theorem transform?_lookingUp (key : String) :
    registry.lookingUp.transform? key = (registry.transform? key).map Transform.lookingUp := by
  rw [transform?, transform?, lookingUp, Assoc.get?_map]

/-- A projection has the same effect if its function looks up a value that it would see anyway. -/
theorem effect_lookingUp {transform : Transform} {subject options : Value} {scope : Option Scope}
    {around : Surroundings options.weight}
    (hsees : ∀ writes, transform.apply subject options around = .deferred writes →
      ∀ call, Projection.call? subject options scope = some call → call.SeesSlot) :
    (transform.lookingUp.apply subject options around).effect subject options scope =
      (transform.apply subject options around).effect subject options scope := by
  rw [Transform.lookingUp]
  dsimp only
  cases happly : transform.apply subject options around with
  | deferred writes =>
    dsimp only
    rw [Projection.effect_deferred, Projection.effect_deferred]
    cases hcall : Projection.call? subject options scope with
    | none => rfl
    | some call =>
      have hslot : call.previous = call.record.field call.key := hsees writes happly call hcall
      dsimp only
      rw [hslot]
  | _ => rfl

theorem step_lookingUp (hc : registry.Consults) {frame : Frame}
    (hsees : ∀ key argument subject call, registry.Defers frame key argument subject call →
      call.SeesSlot)
    (h : ∀ next, registry.Enters frame next → registry.lookingUp.enter next = registry.enter next)
    {key : String} {argument subject : Value}
    (hreach : registry.Reaches frame key argument subject) :
    registry.lookingUp.stepBy registry.lookingUp.enter subject frame.scope key argument =
      registry.step subject frame.scope key argument := by
  rw [← stepBy_eq_step hc h hreach]
  unfold stepBy
  rw [predicate?_lookingUp, transform?_lookingUp]
  cases hp : registry.predicate? key with
  | some predicate => rfl
  | none =>
    cases ht : registry.transform? key with
    | none => rfl
    | some transform =>
      refine effect_lookingUp fun writes hdefers call hcall => ?_
      -- the transform is given the engine itself in its place
      rw [hc.transform key transform ht subject argument
        (surroundingsBy registry.lookingUp.enter frame.scope argument)
        (registry.surroundings frame.scope argument) rfl rfl] at hdefers
      exact hsees key argument subject call ⟨hreach, hp, ⟨transform, writes, ht, hdefers⟩, hcall⟩

/-- **Where all calls see their slot** it makes no difference if the functions look the values up by
themselves. -/
theorem evaluate?_lookingUp (hc : registry.Consults) {data : Value} {pattern : Entries}
    (h : registry.AllSeeSlots data pattern) :
    registry.lookingUp.evaluate? data (.record pattern) =
      registry.evaluate? data (.record pattern) := by
  have hframes : ∀ frame, Relation.ReflTransGen registry.Enters (.root data pattern) frame →
      registry.lookingUp.enter frame = registry.enter frame := by
    refine @induct_entered registry _ fun frame ih hframe => ?_
    rw [enter, ← runBy_enter]
    exact runBy_eq_of_steps fun hreach =>
      step_lookingUp hc (h frame hframe)
        (fun next hnext => ih next hnext (hframe.tail hnext)) hreach
  rw [evaluate?_record, evaluate?_record]
  exact congrArg _ (hframes (.root data pattern) .refl)

/-- **What the functions of deferred writes see**, in the evaluation of a pattern and in those that
it comes to; what operators match by themselves are evaluations with a root of their own.  At the
root it is the value that the record holds at the key.  Under a field the record is the one that
holds the field, and the value is what the entries in front leave of that at the field, which is
this value itself unless there is a nested pattern among them.  So it is the value at the key if
there is no alias or one for the same field; otherwise only if both fields hold the same.  In an
evaluation in which it always is the value at the key, the functions might look it up by
themselves. -/
theorem deferred_calls (registry : Registry) (data : Value) (pattern : Entries) :
    (∀ frame, Relation.ReflTransGen registry.Enters (.root data pattern) frame →
      ∀ key argument subject call, registry.Defers frame key argument subject call →
        (∃ transform writes, registry.transform? key = some transform ∧
          transform.apply subject argument (registry.surroundings frame.scope argument) =
            .deferred writes ∧
          registry.step subject frame.scope key argument =
            some (.ofWrites subject frame.scope (writes call.record call.key call.previous))) ∧
        (frame.scope = none → call.SeesSlot) ∧
        ∀ place, frame.scope = some place →
          call.record = place.holder ∧ call.key = (alias? argument).getD place.property ∧
          ∃ before after outcome, expand frame.pattern = before ++ (key, argument) :: after ∧
            registry.run (place.holder.field place.property) (some place) before = some outcome ∧
            call.previous = outcome.value ∧
            (registry.Flat before →
              (call.SeesSlot ↔ place.holder.field place.property = place.holder.field call.key))) ∧
    (registry.Consults → registry.AllSeeSlots data pattern →
      registry.lookingUp.evaluate? data (.record pattern) =
        registry.evaluate? data (.record pattern)) := by
  refine ⟨fun frame hframe key argument subject call hcall =>
    ⟨step_of_defers hcall, fun hroot => ?_, fun place hplace => ?_⟩,
      fun hc => evaluate?_lookingUp hc⟩
  · have his := hcall.is_call
    rw [hroot] at his
    exact Projection.seesSlot_of_call?_none his
  · have his := hcall.is_call
    rw [hplace, Projection.call?, Option.some.injEq] at his
    obtain ⟨before, after, outcome, hpattern, hbefore, hsubject⟩ := hcall.reaches
    rw [subject_of_reached hframe hplace, hplace] at hbefore
    subst his
    refine ⟨rfl, rfl, before, after, outcome, hpattern, hbefore, hsubject.symm, fun hflat => ?_⟩
    rw [Call.SeesSlot, ← hsubject, value_of_run hflat hbefore]

/-- Without an alias the only call sees its slot. -/
theorem deferred_calls_unnamed :
    let later : Transform :=
      { apply := fun _ _ _ => .deferred fun _ key previous => [⟨key, .set (.array [previous])⟩] }
    let registry : Registry := { predicates := [], transforms := [("$later", later)] }
    let data : Value := .record [("a", .string "x"), ("b", .string "y")]
    let pattern : Entries := [("a", .record [("$later", .record [])])]
    let frame : Frame :=
      { subject := .string "x", scope := some ⟨"a", data⟩, pattern := [("$later", .record [])] }
    Relation.ReflTransGen registry.Enters (.root data pattern) frame ∧
      (∃ call, registry.Defers frame "$later" (.record []) (.string "x") call ∧ call.SeesSlot) ∧
      registry.Consults ∧ registry.AllSeeSlots data pattern ∧
      registry.lookingUp.evaluate? data (.record pattern) =
        registry.evaluate? data (.record pattern) := by
  intro later registry data pattern frame
  obtain ⟨hcalls, hsame⟩ := deferred_calls registry data pattern
  have hroot {key : String} {argument subject : Value} :=
    @reaches_iff_of_singleton registry (.root data pattern) _ rfl key argument subject
  have hinner {key : String} {argument subject : Value} :=
    @reaches_iff_of_singleton registry frame _ rfl key argument subject
  have hframe : Relation.ReflTransGen registry.Enters (.root data pattern) frame :=
    .single (.nested (hroot.mpr ⟨rfl, rfl⟩) rfl)
  -- no other frames are entered
  have hframes : ∀ next, Relation.ReflTransGen registry.Enters (.root data pattern) next →
      next = .root data pattern ∨ next = frame := by
    intro next h
    induction h with
    | refl => exact .inl rfl
    | tail _ henters ih =>
      cases henters with
      | consulted _ _ hp => cases hp
      | nested hreach hkey =>
        rcases ih with rfl | rfl
        · obtain ⟨hentry, rfl⟩ := hroot.mp hreach
          cases hentry
          exact .inr rfl
        · obtain ⟨hentry, -⟩ := hinner.mp hreach
          cases hentry
          cases hkey
  have hsees : registry.AllSeeSlots data pattern := by
    intro next hnext key argument subject call hcall
    rcases hframes next hnext with rfl | rfl
    · exact (hcalls _ hnext key argument subject call hcall).2.1 rfl
    · obtain ⟨-, hkey, before, after, outcome, hpattern, -, -, hslot⟩ :=
        (hcalls _ hnext key argument subject call hcall).2.2 ⟨"a", data⟩ rfl
      have hflat : registry.Flat before := by
        intro entry hmem
        have hentry : entry ∈ expand frame.pattern := by
          rw [hpattern]
          exact List.mem_append_left _ hmem
        rw [show expand frame.pattern = [("$later", .record [])] from rfl,
          List.mem_singleton] at hentry
        exact .inl (by rw [hentry]; rfl)
      obtain ⟨hentry, -⟩ := hinner.mp hcall.reaches
      cases hentry
      exact (hslot hflat).mpr (by rw [hkey]; rfl)
  have hcall : registry.Defers frame "$later" (.record []) (.string "x") ⟨data, "a", .string "x"⟩ :=
    ⟨hinner.mpr ⟨rfl, rfl⟩, rfl, ⟨later, _, rfl, rfl⟩, rfl⟩
  have hc : registry.Consults := by
    refine ⟨fun key predicate h => (by cases h), fun key transform h => ?_⟩
    obtain ⟨rfl, rfl⟩ := Prod.mk.inj (List.mem_singleton.mp (Assoc.mem_of_get? h))
    exact fun _ _ _ _ _ _ => rfl
  exact ⟨hframe, ⟨_, hcall, hsees frame hframe _ _ _ _ hcall⟩, hc, hsees, hsame hc hsees⟩

/-- With an alias the function is given the value at the field, and not that at the key it is to
write to. -/
theorem not_seesSlot_alias :
    let later : Transform :=
      { apply := fun _ _ _ => .deferred fun _ key previous => [⟨key, .set (.array [previous])⟩] }
    let registry : Registry := { predicates := [], transforms := [("$later", later)] }
    let data : Value := .record [("a", .string "x"), ("b", .string "y")]
    let nested : Entries := [("$later", .record [("as", .string "b")])]
    let pattern : Entries := [("a", .record nested)]
    let frame : Frame := { subject := .string "x", scope := some ⟨"a", data⟩, pattern := nested }
    let call : Call := { record := data, key := "b", previous := .string "x" }
    Relation.ReflTransGen registry.Enters (.root data pattern) frame ∧
      registry.Defers frame "$later" (.record [("as", .string "b")]) (.string "x") call ∧
      ¬ call.SeesSlot := by
  intro later registry data nested pattern frame call
  have hpattern : expand pattern = [("a", .record nested)] := Pattern.expand_singleton rfl _
  have hnested : expand nested = [("$later", .record [("as", .string "b")])] :=
    Pattern.expand_singleton rfl _
  have hroot : registry.Reaches (.root data pattern) "a" (.record nested) data :=
    (reaches_iff_of_singleton hpattern).mpr ⟨rfl, rfl⟩
  have hinner : registry.Reaches frame "$later" (.record [("as", .string "b")]) (.string "x") :=
    (reaches_iff_of_singleton hnested).mpr ⟨rfl, rfl⟩
  refine ⟨.single (.nested hroot rfl), ⟨hinner, rfl, ⟨later, _, rfl, rfl⟩, rfl⟩, fun hsees => ?_⟩
  have hsame : Value.string "x" = .string "y" := hsees
  exact absurd (Value.string.inj hsame) (by decide)

end Registry

end RecordQuery

import Mathlib.Data.List.Chain
import RecordQuery.Proofs.Pattern.Concatenation
import RecordQuery.Proofs.Pattern.Confined

/-!
# Evaluations inside evaluations

The evaluation of a pattern comes to evaluations of other patterns: of those nested under its
fields, and of those in the arguments of the operators that match them.  These are no parts of the
pattern, as dotted keys are written out and merged at every level; but they weigh less.

* `Frame`: an evaluation by what it is given.  `Registry.Enters`: the frames that the evaluation of
  a frame comes to.
* `Registry.weight_lt_of_enters`: they weigh less.  `Registry.induct_entered`: induction over them.
* `Registry.runBy`: an evaluation that leaves the frames it comes to to others; `Registry.within`:
  one with a limit to the number of frames inside each other.
* `Registry.runBy_eq_enter`: the frames that are entered are the only ones that matter.
* `Registry.frames_bounded`: how many frames there are inside each other.
-/

namespace RecordQuery

open Pattern (expand)
open Value (weightEntries)

/-- An evaluation of a pattern: the subject, the field that it was found under, and the pattern. -/
structure Frame where
  subject : Value
  scope : Option Scope
  pattern : Entries

namespace Frame

/-- The evaluation of a pattern by itself. -/
def root (data : Value) (pattern : Entries) : Frame := { subject := data, scope := none, pattern }

def weight (frame : Frame) : Nat := weightEntries frame.pattern

end Frame

namespace Transform

/-- The projection does not depend on the engine. -/
def IgnoresEngine (transform : Transform) : Prop :=
  ∀ (subject options : Value) (around other : Surroundings options.weight),
    around.property = other.property → around.holder = other.holder →
      transform.apply subject options around = transform.apply subject options other

@[simp] theorem ignoresEngine_ofPartial (f : (subject options : Value) → Option Value) :
    (ofPartial f).IgnoresEngine := fun _ _ _ _ _ _ => rfl

theorem ignoresEngine_of_mem_builtins {functions : Functions} {entry : String × Transform}
    (h : entry ∈ builtins functions) : entry.2.IgnoresEngine := by
  have hall : ∀ entry ∈ builtins functions, entry.2.IgnoresEngine := by
    simp only [builtins, aggregates, arrays, textuals, numerics, reflectives, ofOperands, ofItems,
      ofTwoLists, ofText, ofSubject, ofUnary, ofBinary, ofTernary, ofMembers,
      List.forall_mem_append, List.forall_mem_map, List.forall_mem_cons, ignoresEngine_ofPartial,
      List.not_mem_nil, false_implies, implies_true, and_true, true_and]
    refine ⟨fun _ _ _ _ _ _ => rfl, fun _ _ _ _ _ _ => rfl,
      fun subject options around other hproperty hholder => ?_⟩
    -- `$drop` hands its surroundings to a function of the caller
    have hvalue : around.toValue = other.toValue := by
      rw [Surroundings.toValue, Surroundings.toValue, hproperty, hholder]
    cases options with
    | function f => simp only [hvalue]
    | _ => rfl
  exact hall entry h

end Transform

namespace Registry

variable (registry : Registry)

def enter (frame : Frame) : Option Outcome :=
  registry.run frame.subject frame.scope (expand frame.pattern)

/-- The evaluation of a frame comes to an entry, with the subject as the entries in front leave
it. -/
def Reaches (frame : Frame) (key : String) (argument subject : Value) : Prop :=
  ∃ before after outcome, expand frame.pattern = before ++ (key, argument) :: after ∧
    registry.run frame.subject frame.scope before = some outcome ∧ outcome.value = subject

/-- The frames that the evaluation of a frame comes to: the pattern under a field, and the patterns
in the argument of a predicate, whatever values it may match with them. -/
inductive Enters (frame : Frame) : Frame → Prop
  | nested {key nested subject} : registry.Reaches frame key (.record nested) subject →
      registry.isOperator key = false →
      Enters frame { subject := subject.field key, scope := some ⟨key, subject⟩, pattern := nested }
  | consulted {key argument subject pattern} (value : Value) :
      registry.Reaches frame key argument subject → (registry.predicate? key).isSome = true →
      Pattern.Consulted key argument (.record pattern) → Enters frame (.root value pattern)

/-- Predicates match no patterns but those in their argument, and transforms match none. -/
structure Consults : Prop where
  predicate : ∀ key predicate, registry.predicate? key = some predicate → predicate.Consults key
  transform : ∀ key transform, registry.transform? key = some transform → transform.IgnoresEngine

/-- What the operator of an entry sees if frames are left to others. -/
def surroundingsBy (answer : Frame → Option Outcome) (scope : Option Scope) (argument : Value) :
    Surroundings argument.weight :=
  { property := scope.map (·.property)
    holder := scope.map (·.holder)
    accepts := fun value pattern _ =>
      match pattern with
      | .record entries => (answer (.root value entries)).isSome
      | literal => value == literal }

/-- The effect of one entry if frames are left to others. -/
def stepBy (answer : Frame → Option Outcome) (subject : Value) (scope : Option Scope) (key : String)
    (argument : Value) : Option Outcome :=
  match registry.predicate? key with
  | some predicate =>
    if predicate.ignores argument ||
        predicate.test subject argument (surroundingsBy answer scope argument) then
      some (.unchanged subject)
    else none
  | none =>
    match registry.transform? key with
    | some transform =>
      (transform.apply subject argument (surroundingsBy answer scope argument)).effect
        subject argument scope
    | none =>
      match argument with
      | .record nested =>
        (answer
          { subject := subject.field key, scope := some ⟨key, subject⟩, pattern := nested }).map
          fun inner => inner.absorb subject key (subject.field key)
      | literal => if subject.field key == literal then some (.unchanged subject) else none

/-- The evaluation of entries if frames are left to others. -/
def runBy (answer : Frame → Option Outcome) (subject : Value) (scope : Option Scope) :
    Entries → Option Outcome
  | [] => some (.unchanged subject)
  | (key, argument) :: rest =>
    (registry.stepBy answer subject scope key argument).bind fun first =>
      (runBy answer first.value scope rest).map first.followedBy

/-- The result of a frame with at most `limit` frames inside each other; others are answered by
`beyond`. -/
def within (beyond : Frame → Option Outcome) : (limit : Nat) → Frame → Option Outcome
  | 0, frame => beyond frame
  | limit + 1, frame =>
    registry.runBy (within beyond limit) frame.subject frame.scope (expand frame.pattern)

variable {registry}

theorem reaches_iff_of_singleton {frame : Frame} {first : String × Value}
    (h : expand frame.pattern = [first]) {key : String} {argument subject : Value} :
    registry.Reaches frame key argument subject ↔
      (key, argument) = first ∧ subject = frame.subject := by
  constructor
  · rintro ⟨before, after, outcome, hpattern, hbefore, rfl⟩
    rw [h, List.singleton_eq_append_iff] at hpattern
    rcases hpattern with ⟨rfl, hfirst⟩ | ⟨-, hnil⟩
    · rw [run_nil, Option.some.injEq] at hbefore
      exact ⟨(List.cons.inj hfirst).1, by rw [← hbefore, Outcome.unchanged_value]⟩
    · cases hnil
  · rintro ⟨rfl, rfl⟩
    exact ⟨[], [], .unchanged frame.subject, h, run_nil .., rfl⟩

/-! ### Weights -/

theorem weight_of_mem {entries : Entries} {entry : String × Value} (h : entry ∈ entries) :
    entry.2.weight < weightEntries entries := by
  induction entries with
  | nil => cases h
  | cons first rest ih =>
    obtain ⟨key, value⟩ := first
    have hkey := Pattern.length_keyPath_pos key
    rw [weightEntries]
    rcases List.mem_cons.mp h with rfl | h
    · show value.weight < _
      omega
    · have := ih h
      omega

theorem Reaches.weight_lt {frame : Frame} {key : String} {argument subject : Value}
    (h : registry.Reaches frame key argument subject) : argument.weight < frame.weight := by
  obtain ⟨before, after, -, hpattern, -⟩ := h
  have hmem : (key, argument) ∈ expand frame.pattern := by rw [hpattern]; simp
  exact (weight_of_mem hmem).trans_le (Pattern.weight_expand_le frame.pattern)

theorem weight_le_of_consulted {key : String} {argument pattern : Value}
    (h : Pattern.Consulted key argument pattern) : pattern.weight ≤ argument.weight := by
  cases h with
  | item _ hi => exact Pattern.weight_le_of_mem hi
  | argument => exact le_refl _

/-- **What an evaluation comes to weighs less.** -/
theorem weight_lt_of_enters {frame next : Frame} (h : registry.Enters frame next) :
    next.weight < frame.weight := by
  cases h with
  | nested h => exact h.weight_lt
  | consulted value h _ hc => exact (weight_le_of_consulted hc).trans_lt h.weight_lt

/-- Induction over the frames that are entered, from the innermost ones on. -/
theorem induct_entered {motive : Frame → Prop}
    (h : ∀ frame, (∀ next, registry.Enters frame next → motive next) → motive frame) :
    ∀ frame, motive frame := by
  intro frame
  induction hw : frame.weight using Nat.strong_induction_on generalizing frame with
  | _ weight ih =>
    subst hw
    exact h frame fun next hnext => ih next.weight (weight_lt_of_enters hnext) next rfl

theorem length_le_of_isChain {frame : Frame} {frames : List Frame}
    (h : List.IsChain registry.Enters (frame :: frames)) : frames.length ≤ frame.weight := by
  induction frames generalizing frame with
  | nil => exact Nat.zero_le _
  | cons next frames ih =>
    rw [List.isChain_cons_cons] at h
    exact (ih h.2).trans_lt (weight_lt_of_enters h.1)

/-! ### Evaluations that leave frames to others -/

theorem surroundingsBy_enter (scope : Option Scope) (argument : Value) :
    surroundingsBy registry.enter scope argument = registry.surroundings scope argument :=
  registry.mk_surroundings scope argument

theorem stepBy_enter (subject : Value) (scope : Option Scope) (key : String) (argument : Value) :
    registry.stepBy registry.enter subject scope key argument =
      registry.step subject scope key argument := by
  unfold stepBy
  rw [surroundingsBy_enter]
  rfl

theorem runBy_enter (scope : Option Scope) : ∀ (entries : Entries) (subject : Value),
    registry.runBy registry.enter subject scope entries = registry.run subject scope entries := by
  intro entries
  induction entries with
  | nil => exact fun subject => (registry.run_nil subject scope).symm
  | cons entry rest ih =>
    obtain ⟨key, argument⟩ := entry
    intro subject
    rw [runBy, stepBy_enter, run_cons]
    simp only [ih]

/-- An entry has the same effect if the frames that it comes to are answered as they are. -/
theorem stepBy_eq_step (hc : registry.Consults) {answer : Frame → Option Outcome} {frame : Frame}
    (h : ∀ next, registry.Enters frame next → answer next = registry.enter next) {key : String}
    {argument subject : Value} (hreach : registry.Reaches frame key argument subject) :
    registry.stepBy answer subject frame.scope key argument =
      registry.step subject frame.scope key argument := by
  rw [← stepBy_enter]
  unfold stepBy
  cases hp : registry.predicate? key with
  | some predicate =>
    have hanswers : ∀ pattern, Pattern.Consulted key argument pattern → ∀ value hw,
        (surroundingsBy answer frame.scope argument).accepts value pattern hw =
          (surroundingsBy registry.enter frame.scope argument).accepts value pattern hw := by
      intro pattern hq value _
      cases pattern with
      | record entries =>
        have hnext := h _ (.consulted value hreach (by rw [hp]; rfl) hq)
        exact congrArg Option.isSome hnext
      | _ => rfl
    have htest := hc.predicate key predicate hp subject argument
      (surroundingsBy answer frame.scope argument)
      (surroundingsBy registry.enter frame.scope argument)
      rfl rfl hanswers
    simp only [htest]
  | none =>
    cases ht : registry.transform? key with
    | some transform =>
      have happly := hc.transform key transform ht subject argument
        (surroundingsBy answer frame.scope argument)
        (surroundingsBy registry.enter frame.scope argument)
        rfl rfl
      simp only [happly]
    | none =>
      cases argument with
      | record nested =>
        have hkey : registry.isOperator key = false := isOperator_eq_false_iff.mpr ⟨hp, ht⟩
        simp only [h _ (.nested hreach hkey)]
      | _ => rfl

theorem run_singleton (subject : Value) (scope : Option Scope) (key : String) (argument : Value) :
    registry.run subject scope [(key, argument)] = registry.step subject scope key argument := by
  have hsame (first : Outcome) : first.followedBy (.unchanged first.value) = first := by
    simp [Outcome.followedBy]
  rw [run_cons]
  cases registry.step subject scope key argument with
  | none => rfl
  | some first => rw [Option.bind_some, run_nil, Option.map_some, hsame]

theorem runBy_eq_of_steps {other : Registry} {answer : Frame → Option Outcome} {frame : Frame}
    (h : ∀ {key argument subject}, registry.Reaches frame key argument subject →
      other.stepBy answer subject frame.scope key argument =
        registry.step subject frame.scope key argument) :
    other.runBy answer frame.subject frame.scope (expand frame.pattern) = registry.enter frame := by
  -- by induction on the entries that are left; those in front tell the subject that they are run on
  have hrest : ∀ rest before outcome, expand frame.pattern = before ++ rest →
      registry.run frame.subject frame.scope before = some outcome →
        other.runBy answer outcome.value frame.scope rest =
          registry.run outcome.value frame.scope rest := by
    intro rest
    induction rest with
    | nil => exact fun _ outcome _ _ => (registry.run_nil outcome.value frame.scope).symm
    | cons entry rest ih =>
      obtain ⟨key, argument⟩ := entry
      intro before outcome hpattern hbefore
      rw [runBy, run_cons, h ⟨before, rest, outcome, hpattern, hbefore, rfl⟩]
      cases hstep : registry.step outcome.value frame.scope key argument with
      | none => rfl
      | some first =>
        have hentry : registry.run frame.subject frame.scope (before ++ [(key, argument)]) =
            some (outcome.followedBy first) := by
          rw [run_append, hbefore, Option.bind_some, run_singleton, hstep]
          rfl
        have hnext := ih (before ++ [(key, argument)]) (outcome.followedBy first)
          (by rw [hpattern, List.append_assoc, List.singleton_append]) hentry
        rw [Outcome.followedBy_value] at hnext
        rw [Option.bind_some, Option.bind_some, hnext]
  exact hrest (expand frame.pattern) [] (.unchanged frame.subject) rfl (registry.run_nil _ _)

/-- **The frames that are entered are the only ones that matter** to the result of a frame. -/
theorem runBy_eq_enter (hc : registry.Consults) {answer : Frame → Option Outcome} {frame : Frame}
    (h : ∀ next, registry.Enters frame next → answer next = registry.enter next) :
    registry.runBy answer frame.subject frame.scope (expand frame.pattern) = registry.enter frame :=
  runBy_eq_of_steps fun hreach => stepBy_eq_step hc h hreach

/-- **A limit of one frame more than the weight** changes nothing. -/
theorem within_eq_enter (hc : registry.Consults) (beyond : Frame → Option Outcome) {limit : Nat}
    {frame : Frame} (h : frame.weight < limit) :
    registry.within beyond limit frame = registry.enter frame := by
  induction limit generalizing frame with
  | zero => omega
  | succ limit ih =>
    refine runBy_eq_enter hc fun next hnext => ih ?_
    have := weight_lt_of_enters hnext
    omega

theorem consults_builtins (functions : Functions) : (builtins functions).Consults :=
  ⟨fun _ _ h => Predicate.consults_of_mem_builtins (Assoc.mem_of_get? h),
    fun _ _ h => Transform.ignoresEngine_of_mem_builtins (Assoc.mem_of_get? h)⟩

/-- **Evaluations inside each other are bounded by the weight of the pattern**, whatever the data
are.  Writing dotted keys out does not make a pattern heavier, and every evaluation that the one of
a pattern comes to is that of a lighter pattern; so there are never more of them inside each other
than the weight says, and one in addition, for the pattern itself.  With what they come to told in
this way nothing is left out: the result depends on no other evaluations, and a limit of so many
makes no difference, whatever would be answered beyond. -/
theorem frames_bounded (functions : Functions) (pattern : Entries) :
    let registry := builtins functions
    weightEntries (expand pattern) ≤ weightEntries pattern ∧
    (∀ frame next, registry.Enters frame next → next.weight < frame.weight) ∧
    (∀ data frames, List.IsChain registry.Enters (.root data pattern :: frames) →
      (Frame.root data pattern :: frames).length ≤ weightEntries pattern + 1) ∧
    (∀ frame answer, (∀ next, registry.Enters frame next → answer next = registry.enter next) →
      registry.runBy answer frame.subject frame.scope (expand frame.pattern) =
        registry.run frame.subject frame.scope (expand frame.pattern)) ∧
    ∀ data beyond limit, weightEntries pattern + 1 ≤ limit →
      registry.evaluate? data (.record pattern) =
        (registry.within beyond limit (.root data pattern)).map fun outcome =>
          { value := outcome.value, edits := outcome.edits } := by
  intro registry
  have hc : registry.Consults := consults_builtins functions
  refine ⟨Pattern.weight_expand_le pattern, fun frame next => weight_lt_of_enters,
    fun data frames h => ?_, fun frame answer => runBy_eq_enter hc,
    fun data beyond limit hlimit => ?_⟩
  · have hlength := length_le_of_isChain h
    rw [List.length_cons]
    exact Nat.add_le_add_right hlength 1
  · have hresult := within_eq_enter hc beyond
      (show (Frame.root data pattern).weight < limit from hlimit)
    rw [hresult, evaluate?_record]
    rfl

/-- A dotted key inside a negation makes as many evaluations as there can be. -/
theorem frames_bounded_attained :
    let registry := builtins fun _ _ => .undefined
    let pattern : Entries := [("$not", .record [("a.b", .record [])])]
    let frames : List Frame := [.root .null [("a.b", .record [])],
      { subject := .undefined, scope := some ⟨"a", .null⟩, pattern := [("b", .record [])] },
      { subject := .undefined, scope := some ⟨"b", .undefined⟩, pattern := [] }]
    weightEntries pattern = 3 ∧ List.IsChain registry.Enters (.root .null pattern :: frames) ∧
      (Frame.root .null pattern :: frames).length = weightEntries pattern + 1 ∧
      registry.evaluate? .null (.record pattern) =
        (registry.within (fun _ => none) 4 (.root .null pattern)).map fun outcome =>
          { value := outcome.value, edits := outcome.edits } := by
  intro registry pattern frames
  have hweight : weightEntries pattern = 3 := by decide
  obtain ⟨-, -, hlength, -, hresult⟩ := frames_bounded (fun _ _ => .undefined) pattern
  have hfirst {frame : Frame} {key : String} {argument : Value}
      (h : expand frame.pattern = [(key, argument)]) :
      registry.Reaches frame key argument frame.subject :=
    (reaches_iff_of_singleton h).mpr ⟨rfl, rfl⟩
  have hchain : List.IsChain registry.Enters (.root .null pattern :: frames) := by
    refine .cons_cons (.consulted .null (hfirst rfl) rfl (.argument (by decide))) ?_
    refine .cons_cons (.nested (hfirst rfl) rfl) (.cons_cons (.nested (hfirst rfl) rfl) ?_)
    exact List.isChain_singleton _
  have hleast : weightEntries pattern + 1 ≤ (Frame.root .null pattern :: frames).length := by
    rw [hweight]
    exact le_refl 4
  exact ⟨hweight, hchain, le_antisymm (hlength .null frames hchain) hleast,
    hresult .null _ 4 (by rw [hweight])⟩

end Registry

end RecordQuery

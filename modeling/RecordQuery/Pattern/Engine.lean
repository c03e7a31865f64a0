import RecordQuery.Pattern.Registry
import RecordQuery.Value.Equality

/-!
# Evaluation of patterns

A pattern is a record whose keys are operators or names of fields.  Its entries are taken in order
against a working copy of the subject:

* a predicate tests the subject;
* a transform projects it: at the root the projection takes the place of the subject, under a field
  it becomes a write to the record that holds the field;
* a nested pattern is evaluated on the field, and its writes are made before the next entry;
* anything else has to equal the field.

Main definitions: `Registry.run`, the evaluation of the entries of a pattern; `Registry.evaluate?`,
that of a pattern on a value together with the edits made; `Edit.applyAll`, the replay of edits;
`Registry.query?`, evaluation of the elements of nested arrays.
-/

namespace RecordQuery

/-- A write made during an evaluation, by its path from the root; the empty path is the root. -/
structure Edit where
  path : List String
  action : Action

namespace Edit

/-- The edit as seen from the record that holds its root under a key. -/
def under (key : String) (edit : Edit) : Edit := { edit with path := key :: edit.path }

/-- The edit of a write to a field of the root. -/
def ofAssignment (write : Assignment) : Edit := { path := [write.key], action := write.action }

/-- Performs an action at the end of a path; nothing happens if the path leads nowhere. -/
def applyPath (action : Action) : List String → Value → Value
  | [], _ =>
    match action with
    | .set value => value
    | .delete => .undefined
  | [key], target => action.applyAt key target
  | key :: path, target =>
    match target.get? key with
    | some child => target.setField key (applyPath action path child)
    | none => target

/-- Performs an edit. -/
def apply (target : Value) (edit : Edit) : Value := applyPath edit.action edit.path target

/-- Performs edits in order. -/
def applyAll (target : Value) (edits : List Edit) : Value := edits.foldl apply target

end Edit

/-- A field and the record that holds it. -/
structure Scope where
  property : String
  holder : Value

/--
The result of evaluating entries: the subject as they leave it, the writes meant for the record that
holds the subject, and the edits made to the subject.
-/
structure Outcome where
  value : Value
  assignments : List Assignment
  edits : List Edit

namespace Outcome

/-- A result that changes nothing. -/
def unchanged (value : Value) : Outcome := { value, assignments := [], edits := [] }

/-- The result of further entries after those of a first result. -/
def followedBy (first second : Outcome) : Outcome :=
  { value := second.value
    assignments := first.assignments ++ second.assignments
    edits := first.edits ++ second.edits }

end Outcome

/-- A successful evaluation: the value and the edits that lead to it. -/
structure Evaluation where
  value : Value
  edits : List Edit

/-- The other name of the target field that a transform's options give. -/
def alias? (options : Value) : Option String := (options.get? "as").bind Value.string?

/-- Performs writes on a subject. -/
def assignAll (subject : Value) (writes : List Assignment) : Value :=
  writes.foldl Assignment.apply subject

namespace Projection

/-- The effect of a projection of a field. -/
def inField (subject options : Value) (scope : Scope) : Projection → Option Outcome
  | .noMatch => none
  | .value .undefined => none
  | .value v =>
    let target := (alias? options).getD scope.property
    some { value := subject, assignments := [⟨target, .set v⟩], edits := [] }
  | .unchanged => some (.unchanged subject)
  | .drop => some { value := subject, assignments := [⟨scope.property, .delete⟩], edits := [] }
  | .deferred writes =>
    let target := (alias? options).getD scope.property
    some { value := subject, assignments := writes scope.holder target subject, edits := [] }

/-- The effect of a projection of the root; deferred writes need a record and an alias. -/
def atRoot (subject options : Value) : Projection → Option Outcome
  | .noMatch => none
  | .value .undefined => none
  | .value v => some { value := v, assignments := [], edits := [⟨[], .set v⟩] }
  | .unchanged => some (.unchanged subject)
  | .drop => none
  | .deferred writes =>
    match alias? options, subject with
    | some target, .record _ =>
      let made := writes subject target (subject.field target)
      some { value := assignAll subject made, assignments := [], edits := made.map .ofAssignment }
    | _, _ => some (.unchanged subject)

/-- The effect of a projection. -/
def effect (subject options : Value) (scope : Option Scope) (projection : Projection) :
    Option Outcome :=
  match scope with
  | some scope => projection.inField subject options scope
  | none => projection.atRoot subject options

end Projection

/-- Writes the result of a nested pattern back into the record that holds the field. -/
def Outcome.absorb (subject : Value) (key : String) (child : Value) (inner : Outcome) : Outcome :=
  let kept := if inner.value == child then subject else subject.setField key inner.value
  { value := assignAll kept inner.assignments
    assignments := []
    edits := inner.edits.map (.under key) ++ inner.assignments.map .ofAssignment }

/-- Whether a predicate passes over its argument. -/
def Predicate.ignores (predicate : Predicate) (argument : Value) : Bool :=
  predicate.kind == .typed && !argument.isTruthy

namespace Registry

/-- Evaluates the entries of a pattern, dotted keys written out, on a subject. -/
def run (registry : Registry) (subject : Value) (scope : Option Scope) :
    (entries : List (String × Value)) → Option Outcome
  | [] => some (.unchanged subject)
  | (key, argument) :: rest =>
    let around : Surroundings argument.weight :=
      { property := scope.map (·.property)
        holder := scope.map (·.holder)
        accepts := fun value pattern hpattern =>
          match pattern, hpattern with
          | .record entries, _hpattern => (run registry value none (Pattern.expand entries)).isSome
          | literal, _ => value == literal }
    match registry.predicate? key with
    | some predicate =>
      if predicate.ignores argument || predicate.test subject argument around then
        run registry subject scope rest
      else none
    | none =>
      match registry.transform? key with
      | some transform =>
        match (transform.apply subject argument around).effect subject argument scope with
        | some first => (run registry first.value scope rest).map first.followedBy
        | none => none
      | none =>
        match argument with
        | .record nested =>
          let child := subject.field key
          match run registry child (some ⟨key, subject⟩) (Pattern.expand nested) with
          | some inner =>
            let first := inner.absorb subject key child
            (run registry first.value scope rest).map first.followedBy
          | none => none
        | literal => if subject.field key == literal then run registry subject scope rest else none
termination_by entries => Value.weightEntries entries
decreasing_by
  all_goals simp only [Value.weightEntries, Value.weight] at *
  all_goals have hpos := Pattern.length_keyPath_pos key
  all_goals first
    | omega
    | (have hle := Pattern.weight_expand_le ‹_›; omega)

/-- Evaluates a pattern on a value; a pattern that is no record has to equal the value. -/
def evaluate? (registry : Registry) (data : Value) : (pattern : Value) → Option Evaluation
  | .record entries =>
    (registry.run data none (Pattern.expand entries)).map fun outcome =>
      { value := outcome.value, edits := outcome.edits }
  | literal => if data == literal then some { value := data, edits := [] } else none

/-- Whether a pattern matches a value. -/
def accepts (registry : Registry) (data pattern : Value) : Bool :=
  (registry.evaluate? data pattern).isSome

/-- Evaluates a pattern on the elements of arrays, `depth` levels down, keeping those it matches. -/
def query? (registry : Registry) (pattern : Value) : (depth : Nat) → (data : Value) → Option Value
  | depth + 1, .array items => some (.array (items.filterMap (query? registry pattern depth)))
  | _, data => (registry.evaluate? data pattern).map (·.value)

end Registry

end RecordQuery

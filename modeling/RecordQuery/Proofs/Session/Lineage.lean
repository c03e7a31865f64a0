import RecordQuery.Proofs.Pattern.Builtins

/-!
# Registrations and lineages of registries

Every registry of a session is a copy of one that was there from the start, or of the builtin or the
empty one, with registrations made on the way.  Its lineage lists them, the latest first.

* `Registration`, `Registry.register`: a registration, of a predicate or of a transform.
* `Registry.isValidName_iff`: the names that can be registered.
* `Registry.register_eq_error_iff`, `Registry.register_cases`: all that a registration can do.
* `Lineage`, `Registry.Follows`: where a registry comes from, and that its operators are the latest
  ones.
* `Registry.Follows.after`: a registration is the latest one, or changes nothing.
* `Registry.ReadsField`, `Registry.Valid.readsField`: keys without the sigil are names of fields.
-/

namespace RecordQuery

open RecordQuery.Path (hasSigil)

/-! ### Registrations -/

/-- An operator and the name under which it is registered. -/
inductive Registration where
  | predicate (name : String) (predicate : Predicate)
  | transform (name : String) (transform : Transform)

namespace Registration

def name : Registration → String
  | .predicate name _ => name
  | .transform name _ => name

def sort : Registration → OperatorSort
  | .predicate .. => .predicate
  | .transform .. => .transform

/-- The predicate that is registered under a name. -/
def predicate? (key : String) : Registration → Option Predicate
  | .predicate name operator => if name = key then some operator else none
  | .transform .. => none

/-- The transform that is registered under a name. -/
def transform? (key : String) : Registration → Option Transform
  | .predicate .. => none
  | .transform name operator => if name = key then some operator else none

end Registration

namespace Registry

/-- Names that can be registered begin with the sigil and have more than one byte. -/
theorem isValidName_iff (name : String) :
    isValidName name = true ↔ hasSigil name = true ∧ 1 < name.utf8ByteSize := by
  have hsize : name.utf8ByteSize = (String.ofList name.toList).utf8ByteSize := by
    rw [String.ofList_toList]
  have hcons : ∀ (c : Char) (cs : List Char), (String.ofList (c :: cs)).utf8ByteSize =
      c.utf8Size + (String.ofList cs).utf8ByteSize := fun c cs => by
    rw [String.ofList_cons, String.utf8ByteSize_append, String.utf8ByteSize_singleton]
  rw [isValidName, hasSigil, hsize]
  rcases name.toList with _ | ⟨c, _ | ⟨d, cs⟩⟩
  · exact ⟨fun h => (by cases h), fun h => (by cases h.1)⟩
  · -- the sigil alone has one byte
    refine ⟨fun h => (by cases h), fun h => ?_⟩
    obtain rfl : c = Path.sigil := by simpa using h.1
    exact absurd h.2 (by decide)
  · have hlong : 1 < (String.ofList (c :: d :: cs)).utf8ByteSize := by
      have hc := c.utf8Size_pos
      have hd := d.utf8Size_pos
      rw [hcons, hcons]
      omega
    rw [List.head?_cons, Option.some_beq_some]
    exact ⟨fun h => ⟨h, hlong⟩, And.left⟩

theorem isValidName_of_ne {name : String} (h : hasSigil name = true) (hne : name ≠ "$") :
    isValidName name = true := by
  have hname : name = String.ofList name.toList := String.ofList_toList.symm
  rw [isValidName]
  rw [hasSigil] at h
  generalize name.toList = cs at h hname ⊢
  rcases cs with _ | ⟨c, _ | ⟨d, cs⟩⟩
  · cases h
  · obtain rfl : c = Path.sigil := by simpa using h
    exact absurd hname hne
  · simpa using h

/-- The names of all operators. -/
def names (registry : Registry) : List String :=
  Assoc.keys registry.predicates ++ Assoc.keys registry.transforms

/-- All operators have names that can be registered. -/
def Valid (registry : Registry) : Prop := ∀ name ∈ registry.names, isValidName name = true

theorem valid_empty : Registry.empty.Valid := fun _ h => absurd h List.not_mem_nil

theorem valid_builtins (functions : Functions) : (builtins functions).Valid := by
  have hp : (builtins functions).predicate? "$" = none := rfl
  have ht : (builtins functions).transform? "$" = none := rfl
  rw [predicate?, Assoc.get?_eq_none_iff] at hp
  rw [transform?, Assoc.get?_eq_none_iff] at ht
  refine List.forall_mem_append.mpr ⟨fun name hm => ?_, fun name hm => ?_⟩
  · exact isValidName_of_ne (hasSigil_of_mem_predicates functions name hm) fun h => hp (h ▸ hm)
  · exact isValidName_of_ne (hasSigil_of_mem_transforms functions name hm) fun h => ht (h ▸ hm)

/-- Adds or replaces the operator of a registration. -/
def register (registry : Registry) : Registration → Except RegistryError Registry
  | .predicate name predicate => registry.registerPredicate name predicate
  | .transform name transform => registry.registerTransform name transform

section

variable {registry next : Registry} {made : Registration}

/-- A registration is refused for its name only. -/
theorem register_eq_error_iff {e : RegistryError} :
    registry.register made = .error e ↔
      isValidName made.name = false ∧ e = .invalidName made.sort made.name := by
  cases made with
  | predicate name predicate =>
    rw [register, registerPredicate, Registration.name, Registration.sort]
    cases isValidName name <;> simp [eq_comm]
  | transform name transform =>
    rw [register, registerTransform, Registration.name, Registration.sort]
    cases isValidName name <;> simp [eq_comm]

/-- A registration under a valid name goes into the table of its sort. -/
theorem register_cases (h : registry.register made = .ok next) :
    isValidName made.name = true ∧
      ((∃ name operator, made = .predicate name operator ∧
        next = { registry with predicates := Assoc.insert name operator registry.predicates }) ∨
      (∃ name operator, made = .transform name operator ∧
        next =
          { registry with transforms := Assoc.insert name operator registry.transforms })) := by
  cases made with
  | predicate name operator =>
    rw [register, registerPredicate] at h
    split at h
    · next hname => cases h; exact ⟨hname, .inl ⟨name, operator, rfl, rfl⟩⟩
    · cases h
  | transform name operator =>
    rw [register, registerTransform] at h
    split at h
    · next hname => cases h; exact ⟨hname, .inr ⟨name, operator, rfl, rfl⟩⟩
    · cases h

theorem predicate?_of_register (h : registry.register made = .ok next) (key : String) :
    next.predicate? key = (made.predicate? key).or (registry.predicate? key) := by
  obtain ⟨-, ⟨name, operator, rfl, rfl⟩ | ⟨name, operator, rfl, rfl⟩⟩ := register_cases h
  · rw [predicate?, Assoc.get?_insert, Registration.predicate?]
    split <;> rfl
  · exact Option.none_or.symm

theorem transform?_of_register (h : registry.register made = .ok next) (key : String) :
    next.transform? key = (made.transform? key).or (registry.transform? key) := by
  obtain ⟨-, ⟨name, operator, rfl, rfl⟩ | ⟨name, operator, rfl, rfl⟩⟩ := register_cases h
  · exact Option.none_or.symm
  · rw [transform?, Assoc.get?_insert, Registration.transform?]
    split <;> rfl

/-- A registration keeps names such as registration asks for. -/
theorem Valid.register (hv : registry.Valid) (h : registry.register made = .ok next) :
    next.Valid := by
  obtain ⟨hname, hnext⟩ := register_cases h
  -- the name is new in one table and the other one stays
  have hmem : ∀ key ∈ next.names, key = made.name ∨ key ∈ registry.names := by
    intro key hm
    rcases List.mem_append.mp hm with hm | hm <;>
      obtain ⟨name, operator, rfl, rfl⟩ | ⟨name, operator, rfl, rfl⟩ := hnext
    · exact (Assoc.mem_keys_insert hm).imp_right fun hm => List.mem_append_left _ hm
    · exact .inr (List.mem_append_left _ hm)
    · exact .inr (List.mem_append_right _ hm)
    · exact (Assoc.mem_keys_insert hm).imp_right fun hm => List.mem_append_right _ hm
  intro key hm
  rcases hmem key hm with rfl | hm
  · exact hname
  · exact hv key hm

end

end Registry

/-! ### Lineages -/

/-- Where a registry comes from: what it was first, and the registrations made since, the latest
first. -/
structure Lineage where
  origin : Registry
  registered : List Registration

namespace Lineage

/-- The lineage of a registry that nothing was added to. -/
def ofOrigin (origin : Registry) : Lineage := { origin, registered := [] }

/-- The lineage with one more registration, unless it is refused. -/
def register (lineage : Lineage) (made : Registration) : Lineage :=
  if Registry.isValidName made.name then
    { lineage with registered := made :: lineage.registered }
  else lineage

/-- The latest predicate of a name. -/
def predicate? (lineage : Lineage) (key : String) : Option Predicate :=
  (lineage.registered.findSome? (Registration.predicate? key)).or (lineage.origin.predicate? key)

/-- The latest transform of a name. -/
def transform? (lineage : Lineage) (key : String) : Option Transform :=
  (lineage.registered.findSome? (Registration.transform? key)).or (lineage.origin.transform? key)

end Lineage

namespace Registry

/-- A registry has valid names, and the latest operators of its lineage. -/
structure Follows (registry : Registry) (lineage : Lineage) : Prop where
  valid : registry.Valid
  predicate? : ∀ key, registry.predicate? key = lineage.predicate? key
  transform? : ∀ key, registry.transform? key = lineage.transform? key

theorem follows_ofOrigin {registry : Registry} (h : registry.Valid) :
    registry.Follows (.ofOrigin registry) :=
  ⟨h, fun _ => Option.none_or.symm, fun _ => Option.none_or.symm⟩

/-- The registry after a registration, which may be refused. -/
def after (registry : Registry) (made : Registration) : Registry :=
  match registry.register made with
  | .ok next => next
  | .error _ => registry

/-- A registration is the latest one in the lineage, or changes nothing. -/
theorem Follows.after {registry : Registry} {lineage : Lineage} (h : registry.Follows lineage)
    (made : Registration) : (registry.after made).Follows (lineage.register made) := by
  rw [Registry.after]
  cases hr : registry.register made with
  | error e =>
    rw [Lineage.register, (register_eq_error_iff.mp hr).1]
    exact h
  | ok next =>
    rw [Lineage.register, if_pos (register_cases hr).1]
    refine ⟨h.valid.register hr, fun key => ?_, fun key => ?_⟩
    · rw [predicate?_of_register hr, h.predicate?, Lineage.predicate?, Lineage.predicate?,
        List.findSome?_cons, ← Option.or_assoc]
      cases made.predicate? key <;> rfl
    · rw [transform?_of_register hr, h.transform?, Lineage.transform?, Lineage.transform?,
        List.findSome?_cons, ← Option.or_assoc]
      cases made.transform? key <;> rfl

/-- A key is the name of a field: its entries in patterns are compared with the field, or matched
against it. -/
structure ReadsField (registry : Registry) (key : String) : Prop where
  isOperator : registry.isOperator key = false
  record : ∀ subject scope nested, registry.step subject scope key (.record nested) =
    (registry.run (subject.field key) (some ⟨key, subject⟩) (Pattern.expand nested)).map
      fun inner => inner.absorb subject key (subject.field key)
  literal : ∀ subject scope literal, literal.record? = none →
    registry.step subject scope key literal =
      if subject.field key == literal then some (.unchanged subject) else none

/-- Keys without the sigil are names of fields. -/
theorem Valid.readsField {registry : Registry} (h : registry.Valid) {key : String}
    (hk : hasSigil key = false) : registry.ReadsField key := by
  have hnot : key ∉ registry.names := fun hm => by
    have := ((isValidName_iff key).mp (h key hm)).1
    rw [hk] at this
    cases this
  rw [names, List.mem_append, not_or] at hnot
  have hp : registry.predicate? key = none := Assoc.get?_eq_none_iff.mpr hnot.1
  have ht : registry.transform? key = none := Assoc.get?_eq_none_iff.mpr hnot.2
  refine ⟨?_, fun _ _ _ => step_of_record hp ht, fun _ _ _ hr => step_of_literal hp ht hr⟩
  rw [isOperator, hp, ht]
  rfl

end Registry

end RecordQuery

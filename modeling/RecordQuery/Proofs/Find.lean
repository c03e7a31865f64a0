import RecordQuery.Find
import RecordQuery.Proofs.Selector.NormalForm
import RecordQuery.Proofs.Sorting.Stability

/-!
# The stages of finding

A request is carried out in stages: the store gives the records that the selector matches, two
patterns are applied to them one after the other, and the results are sorted.  The store rewrites a
selector that is rewritten already, which changes nothing, and a malformed criterion is reported
whatever was found.

* `lookup_normalize`: the store matches records against a selector that is rewritten once.
* `Registry.Stage`, `Registry.stage_evaluateEach`: a pattern that is applied to records.
* `find_eq_error_iff`, `find_of_unordered`, `find_of_ordered`: the last stage.
* `find_stages`: the results of a request.
-/

namespace RecordQuery

/-! ### Lookup -/

/-- The selector of a request in the safe dialect; without one it is the empty pattern. -/
def Request.safeSelector (request : Request) : Value :=
  match request.selector with
  | some selector => Selector.normalize selector
  | none => .record []

/-- A selector that is rewritten stays as it is when the store rewrites it. -/
theorem lookup_normalize (store : Registry) (selector : Value) (records : List Value) :
    lookup store (Selector.normalize selector) records =
      records.filter fun record => store.accepts record (Selector.normalize selector) := by
  refine List.filter_congr fun record _ => ?_
  rw [Selector.accepts, Selector.normalize_of_normal (Selector.normal_normalize selector)]

theorem normalize_nil : Selector.normalize (.record []) = .record [] :=
  Selector.normalize_of_normal (.record List.nodup_nil (by simp) (by simp) (by simp))

theorem lookup_safeSelector (store : Registry) (request : Request) (records : List Value) :
    lookup store request.safeSelector records =
      records.filter fun record => store.accepts record request.safeSelector := by
  rw [Request.safeSelector]
  cases request.selector with
  | some selector => exact lookup_normalize store selector records
  | none =>
    have h := lookup_normalize store (.record []) records
    rwa [normalize_nil] at h

/-! ### Patterns applied to records -/

namespace Registry

/-- A pattern that is applied to each record leads to the results, in the order of the records;
without a pattern the records are the results. -/
def Stage (registry : Registry) (pattern : Option Value) (records results : List Value) : Prop :=
  match pattern with
  | some pattern =>
    results = records.filterMap (fun record =>
      (registry.evaluate? record pattern).map fun found => found.value) ∧
    registry.query? pattern 1 (.array records) = some (.array results)
  | none => results = records

theorem query?_zero (registry : Registry) (pattern data : Value) :
    registry.query? pattern 0 data =
      (registry.evaluate? data pattern).map fun found => found.value := by
  rw [query?]
  rintro _ _ ⟨⟩

/-- Records are taken as they are, also those that are arrays themselves. -/
theorem stage_evaluateEach (registry : Registry) (pattern : Option Value) (records : List Value) :
    registry.Stage pattern records (registry.evaluateEach pattern records) := by
  cases pattern with
  | none => rfl
  | some pattern =>
    refine ⟨rfl, ?_⟩
    rw [query?]
    exact congrArg (fun f => some (Value.array (records.filterMap f)))
      (funext fun record => registry.query?_zero pattern record)

end Registry

/-! ### Order -/

/-- The results of a request before they are sorted. -/
def gathered (store registry : Registry) (request : Request) (records : List Value) : List Value :=
  registry.evaluateEach request.filter
    (registry.evaluateEach request.transform (lookup store request.safeSelector records))

section

variable {store registry : Registry} {request : Request} {records : List Value}

theorem find_eq : find store registry request records =
    if request.order.isEmpty then .ok (gathered store registry request records)
    else sortRecords (gathered store registry request records) request.order := rfl

/-- A request without criteria does not fail, and its results are not sorted. -/
theorem find_of_unordered (h : request.order = []) :
    find store registry request records = .ok (gathered store registry request records) := by
  rw [find_eq, h]
  rfl

theorem find_of_ordered {criteria : List SortCriterion} (hne : request.order ≠ [])
    (h : List.Forall₂ (fun v criterion => SortCriterion.ofValue v = .ok criterion) request.order
      criteria) :
    find store registry request records =
      .ok (sortBy criteria (gathered store registry request records)) := by
  rw [find_eq, if_neg (by simpa using hne), sortRecords, SortCriterion.ofValues_eq_ok_iff.mpr h]
  rfl

/-- The first malformed criterion is reported, also when there is nothing to sort. -/
theorem find_eq_error_iff {e : SortError} :
    find store registry request records = .error e ↔
      ∃ before malformed after, request.order = before ++ malformed :: after ∧
        (∀ v ∈ before, ∃ criterion, SortCriterion.ofValue v = .ok criterion) ∧
        SortCriterion.ofValue malformed = .error e := by
  rw [← SortCriterion.ofValues_eq_error_iff]
  cases horder : request.order with
  | nil =>
    rw [find_of_unordered horder]
    exact ⟨fun h => (by cases h), fun h => (by cases h)⟩
  | cons v order =>
    rw [find_eq, horder, if_neg (by simp), sortRecords]
    cases SortCriterion.ofValues (v :: order) <;> simp [Except.map]

end

/-- **The results of a request.**  The records of the store that match the selector, rewritten once,
are put through the transforming and the filtering pattern.  The request fails with the error of the
first malformed criterion, whatever is left of the records; without criteria the results stay in
order, and otherwise they are the one stable sort by the criteria. -/
theorem find_stages (store registry : Registry) (request : Request) (records : List Value) :
    ∃ matched transformed kept : List Value,
      matched = records.filter (fun record => store.accepts record request.safeSelector) ∧
      registry.Stage request.transform matched transformed ∧
      registry.Stage request.filter transformed kept ∧
      (∀ e, find store registry request records = .error e ↔
        ∃ before malformed after, request.order = before ++ malformed :: after ∧
          (∀ v ∈ before, ∃ criterion, SortCriterion.ofValue v = .ok criterion) ∧
          SortCriterion.ofValue malformed = .error e) ∧
      (request.order = [] → find store registry request records = .ok kept) ∧
      (∀ criteria, request.order ≠ [] →
        List.Forall₂ (fun v criterion => SortCriterion.ofValue v = .ok criterion) request.order
          criteria →
        ∃ results, find store registry request records = .ok results ∧
          ∀ sorted, Order.StableSortOf (compareBy criteria) kept sorted ↔ sorted = results) := by
  refine ⟨_, _, gathered store registry request records,
    lookup_safeSelector store request records, registry.stage_evaluateEach request.transform _,
    registry.stage_evaluateEach request.filter _, fun e => find_eq_error_iff, find_of_unordered,
    fun criteria hne h => ⟨_, find_of_ordered hne h, fun sorted => ⟨fun hs => ?_, ?_⟩⟩⟩
  · exact hs.unique (stableSortOf_sortBy criteria _)
  · rintro rfl
    exact stableSortOf_sortBy criteria _

example (store registry : Registry) :
    find store registry
        { selector := none, transform := none, filter := none, order := [.string "a", .null] } [] =
      .error (.invalidCriterion .null) := rfl

end RecordQuery

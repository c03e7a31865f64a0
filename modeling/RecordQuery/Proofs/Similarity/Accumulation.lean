import Mathlib.Algebra.BigOperators.Fin
import Mathlib.Algebra.Order.BigOperators.Group.List
import Mathlib.Algebra.Order.Field.Rat
import Mathlib.Tactic.NormNum
import Mathlib.Tactic.Positivity
import Mathlib.Tactic.Ring
import RecordQuery.Similarity.Encoder

/-!
# The vector of a list of codes

Codes are counted first, and every count is then added to up to five components, which can coincide
when there are few of them.  In exact arithmetic neither loop matters: a component is the sum of
what every single occurrence of a code adds to it, so that the vector of two lists is the sum of
their vectors.

* `Arithmetic.exact`: rational numbers.
* `targets`, `share`: the components that a code adds to, and what it adds to one of them.
* `sum_counts`: sums over the counts are sums over the codes.
* `size_accumulate`: the number of components.
* `getD_scatter`: what one count adds to a component.
* `accumulate_exact`: the vector by its components.
* `accumulate?`: the vector, with a failure where there is no component to add to.
* `accumulate_additive`: sums, order, signs and total of vectors, and the bounds of the indices.
-/

namespace RecordQuery.Similarity

def Arithmetic.exact : Arithmetic ℚ :=
  { zero := 0
    one := 1
    add := (· + ·)
    mul := (· * ·)
    half := fun count => 1 / 2 ^ count }

/-- The components that a code adds to, with the halvings of what it adds; the first one is its
own. -/
def targets (dimension code : Nat) : List (Nat × Nat) :=
  (code % dimension, 0) ::
    (spread dimension).map fun target => ((code % dimension + target.1) % dimension, target.2)

/-- What an occurrence of a code adds to a component. -/
def share (dimension code i : Nat) : ℚ :=
  ((targets dimension code).map fun target => if target.1 = i then 1 / 2 ^ target.2 else 0).sum

/-- What an occurrence of a code adds to all components. -/
def weight (dimension : Nat) : ℚ := if extendedDimension ≤ dimension then 31 / 16 else 7 / 4

/-! ### Counts -/

theorem sum_countCode (f : Nat → ℚ) (code : Nat) (counted : List (Nat × ℚ)) :
    ((countCode .exact code counted).map fun entry => entry.2 * f entry.1).sum =
      (counted.map fun entry => entry.2 * f entry.1).sum + f code := by
  induction counted with
  | nil => simp [countCode, Arithmetic.exact]
  | cons entry rest ih =>
    rw [countCode]
    split
    · next h =>
      subst h
      simp only [List.map_cons, List.sum_cons, Arithmetic.exact]
      ring
    · simp only [List.map_cons, List.sum_cons, ih, add_assoc]

/-- **Sums over the counts are sums over the codes.** -/
theorem sum_counts (f : Nat → ℚ) (codes : List Nat) :
    ((counts .exact codes).map fun entry => entry.2 * f entry.1).sum = (codes.map f).sum := by
  have hrun : ∀ counted : List (Nat × ℚ),
      ((codes.foldl (fun counted code => countCode .exact code counted) counted).map
          fun entry => entry.2 * f entry.1).sum =
        (counted.map fun entry => entry.2 * f entry.1).sum + (codes.map f).sum := by
    induction codes with
    | nil => intro counted; simp
    | cons code codes ih =>
      intro counted
      rw [List.foldl_cons, ih, sum_countCode, List.map_cons, List.sum_cons, add_assoc]
  rw [counts, hrun, List.map_nil, List.sum_nil, zero_add]

/-! ### Components -/

section Components

variable {α β : Type} (arithmetic : Arithmetic α)

theorem size_foldl {step : Array α → β → Array α}
    (h : ∀ vector x, (step vector x).size = vector.size) (xs : List β) (vector : Array α) :
    (xs.foldl step vector).size = vector.size := by
  induction xs generalizing vector with
  | nil => rfl
  | cons x rest ih => rw [List.foldl_cons, ih, h]

@[simp] theorem size_addAt (vector : Array α) (index : Nat) (x : α) :
    (addAt arithmetic vector index x).size = vector.size := Array.size_modify

@[simp] theorem size_scatter (dimension : Nat) (vector : Array α) (counted : Nat × α) :
    (scatter arithmetic dimension vector counted).size = vector.size := by
  rw [scatter, size_foldl fun vector _ => size_addAt arithmetic vector _ _, size_addAt]

/-- A vector has as many components as its dimension says. -/
@[simp] theorem size_accumulate (dimension : Nat) (codes : List Nat) :
    (accumulate arithmetic dimension codes).size = dimension := by
  rw [accumulate, size_foldl (size_scatter arithmetic dimension), Array.size_replicate]

end Components

theorem getD_addAt {vector : Array ℚ} {i : Nat} (hi : i < vector.size) (index : Nat) (x : ℚ) :
    (addAt .exact vector index x).getD i 0 = vector.getD i 0 + if index = i then x else 0 := by
  have hnew : i < (addAt .exact vector index x).size := by rwa [size_addAt]
  rw [← Array.getElem_eq_getD (h := hnew), ← Array.getElem_eq_getD (h := hi)]
  simp only [addAt, Array.getElem_modify]
  split <;> simp [Arithmetic.exact]

theorem getD_foldl_addAt {β : Type} (index : β → Nat) (amount : β → ℚ) (deposits : List β)
    {vector : Array ℚ} {i : Nat} (hi : i < vector.size) :
    (deposits.foldl (fun vector deposit =>
        addAt .exact vector (index deposit) (amount deposit)) vector).getD i 0 =
      vector.getD i 0 +
        (deposits.map fun deposit => if index deposit = i then amount deposit else 0).sum := by
  induction deposits generalizing vector with
  | nil => simp
  | cons deposit deposits ih =>
    rw [List.foldl_cons, ih (by rwa [size_addAt]), getD_addAt hi, List.map_cons, List.sum_cons,
      add_assoc]

/-- **A count adds to a component what the occurrences of its code add.** -/
theorem getD_scatter (dimension : Nat) {vector : Array ℚ} {i : Nat} (hi : i < vector.size)
    (counted : Nat × ℚ) :
    (scatter .exact dimension vector counted).getD i 0 =
      vector.getD i 0 + counted.2 * share dimension counted.1 i := by
  rw [scatter, getD_foldl_addAt _ _ _ (by rwa [size_addAt]), getD_addAt hi, share, targets,
    List.map_cons, List.sum_cons, mul_add, ← List.sum_map_mul_left, List.map_map, add_assoc]
  simp [Arithmetic.exact, Function.comp_def]

/-- The vector of a list of codes holds in each component what the codes add to it, one by one. -/
theorem accumulate_exact (dimension : Nat) (codes : List Nat) :
    accumulate .exact dimension codes =
      Array.ofFn fun i : Fin dimension => (codes.map fun code => share dimension code i).sum := by
  have hrun : ∀ (counted : List (Nat × ℚ)) {vector : Array ℚ} {i : Nat}, i < vector.size →
      (counted.foldl (scatter .exact dimension) vector).getD i 0 = vector.getD i 0 +
        (counted.map fun entry => entry.2 * share dimension entry.1 i).sum := by
    intro counted
    induction counted with
    | nil => intro vector i _; simp
    | cons entry counted ih =>
      intro vector i hi
      rw [List.foldl_cons, ih (by rwa [size_scatter]), getD_scatter dimension hi, List.map_cons,
        List.sum_cons, add_assoc]
  refine Array.ext (by simp) fun i hleft hright => ?_
  have hi : i < dimension := by simpa using hright
  rw [Array.getElem_eq_getD 0, accumulate, hrun _ (by simpa using hi),
    sum_counts fun code => share dimension code i, Array.getElem_ofFn]
  simp [Arithmetic.exact, hi]

/-! ### Places -/

section Places

variable {α : Type} (arithmetic : Arithmetic α)

/-- Adds a number to a component, if there is one. -/
def addAt? (vector : Array α) (index : Nat) (x : α) : Option (Array α) :=
  if index < vector.size then some (addAt arithmetic vector index x) else none

/-- Adds the count of a code to the components that it goes to, if there are all of them. -/
def scatter? (dimension : Nat) (vector : Array α) (counted : Nat × α) : Option (Array α) := do
  let place := counted.1 % dimension
  let vector ← addAt? arithmetic vector place counted.2
  (spread dimension).foldlM
    (fun vector target =>
      addAt? arithmetic vector ((place + target.1) % dimension)
        (arithmetic.mul counted.2 (arithmetic.half target.2))) vector

/-- The vector of a list of codes, if all components that are added to are there. -/
def accumulate? (dimension : Nat) (codes : List Nat) : Option (Array α) :=
  (counts arithmetic codes).foldlM (scatter? arithmetic dimension)
    (Array.replicate dimension arithmetic.zero)

theorem addAt?_of_lt {vector : Array α} {index : Nat} (h : index < vector.size) (x : α) :
    addAt? arithmetic vector index x = some (addAt arithmetic vector index x) := if_pos h

theorem foldlM_addAt? {β : Type} (index : β → Nat) (amount : β → α) (deposits : List β)
    {vector : Array α} (h : ∀ deposit, index deposit < vector.size) :
    deposits.foldlM (fun vector deposit =>
        addAt? arithmetic vector (index deposit) (amount deposit)) vector =
      some (deposits.foldl (fun vector deposit =>
        addAt arithmetic vector (index deposit) (amount deposit)) vector) := by
  induction deposits generalizing vector with
  | nil => rfl
  | cons deposit deposits ih =>
    rw [List.foldlM_cons, addAt?_of_lt arithmetic (h deposit), Option.bind_eq_bind,
      Option.bind_some, ih fun deposit => by rw [size_addAt]; exact h deposit]
    rfl

theorem scatter?_eq_some {dimension : Nat} (hpos : 0 < dimension) {vector : Array α}
    (hsize : vector.size = dimension) (counted : Nat × α) :
    scatter? arithmetic dimension vector counted =
      some (scatter arithmetic dimension vector counted) := by
  have hplace : ∀ n, n % dimension < vector.size := fun n => by
    rw [hsize]
    exact Nat.mod_lt n hpos
  rw [scatter?, addAt?_of_lt arithmetic (hplace _), Option.bind_eq_bind, Option.bind_some]
  exact foldlM_addAt? arithmetic _ _ _ fun target => by
    rw [size_addAt]
    exact hplace _

/-- **No addition misses its component.** -/
theorem accumulate?_eq_some {dimension : Nat} (hpos : 0 < dimension) (codes : List Nat) :
    accumulate? arithmetic dimension codes = some (accumulate arithmetic dimension codes) := by
  have hrun : ∀ (counted : List (Nat × α)) {vector : Array α}, vector.size = dimension →
      counted.foldlM (scatter? arithmetic dimension) vector =
        some (counted.foldl (scatter arithmetic dimension) vector) := by
    intro counted
    induction counted with
    | nil => intro vector _; rfl
    | cons entry counted ih =>
      intro vector hsize
      rw [List.foldlM_cons, scatter?_eq_some arithmetic hpos hsize, Option.bind_eq_bind,
        Option.bind_some, ih (by rwa [size_scatter]), List.foldl_cons]
  exact hrun _ Array.size_replicate

end Places

/-! ### Sums of shares -/

theorem share_nonneg (dimension code i : Nat) : 0 ≤ share dimension code i := by
  refine List.sum_nonneg fun x hx => ?_
  obtain ⟨target, -, rfl⟩ := List.mem_map.mp hx
  split
  · positivity
  · exact le_rfl

theorem weight_pos (dimension : Nat) : 0 < weight dimension := by
  rw [weight]
  split <;> norm_num

theorem sum_sent {dimension : Nat} (sent : List (Nat × Nat))
    (h : ∀ target ∈ sent, target.1 < dimension) :
    ∑ i : Fin dimension,
        (sent.map fun target => if target.1 = i.val then (1 : ℚ) / 2 ^ target.2 else 0).sum =
      (sent.map fun target => (1 : ℚ) / 2 ^ target.2).sum := by
  induction sent with
  | nil => simp
  | cons target sent ih =>
    rw [List.forall_mem_cons] at h
    simp only [List.map_cons, List.sum_cons, Finset.sum_add_distrib, ih h.2]
    congr 1
    rw [Finset.sum_eq_single ⟨target.1, h.1⟩]
    · exact if_pos rfl
    · intro i _ hi
      exact if_neg fun heq => hi (Fin.ext heq.symm)
    · exact fun hn => absurd (Finset.mem_univ _) hn

/-- An occurrence of a code adds the same to all components together, whatever its place. -/
theorem sum_share {dimension : Nat} (hpos : 0 < dimension) (code : Nat) :
    ∑ i : Fin dimension, share dimension code i = weight dimension := by
  have htargets : ∀ target ∈ targets dimension code, target.1 < dimension := by
    intro target ht
    rcases List.mem_cons.mp ht with rfl | ht
    · exact Nat.mod_lt _ hpos
    · obtain ⟨step, -, rfl⟩ := List.mem_map.mp ht
      exact Nat.mod_lt _ hpos
  simp only [share]
  rw [sum_sent _ htargets, targets, spread, weight]
  split <;> norm_num

/-- The components of a vector sum up to the number of the codes, by the weight of a code. -/
theorem sum_accumulate {dimension : Nat} (hpos : 0 < dimension) (codes : List Nat) :
    (accumulate .exact dimension codes).toList.sum = codes.length * weight dimension := by
  rw [accumulate_exact, Array.toList_ofFn, List.sum_ofFn]
  induction codes with
  | nil => simp
  | cons code codes ih =>
    simp only [List.map_cons, List.sum_cons, Finset.sum_add_distrib, ih, sum_share hpos,
      List.length_cons, Nat.cast_add, Nat.cast_one]
    ring

/-- **Accumulation is additive.**  In exact arithmetic the vector of two lists of codes is the sum
of their vectors.  It depends on nothing but how often every code occurs, has no negative component,
sums up to a fixed weight for each code, and is zero for the empty list alone.  In any arithmetic
every addition goes to a component that is there. -/
theorem accumulate_additive (encoder : Encoder) (c d : List Nat) :
    let vector : List Nat → Array ℚ := accumulate .exact encoder.dimension
    (vector c).size = encoder.dimension ∧
    vector (c ++ d) = Array.zipWith (· + ·) (vector c) (vector d) ∧
    ((∀ code, c.count code = d.count code) → vector c = vector d) ∧
    (∀ x ∈ vector c, 0 ≤ x) ∧
    (vector c).toList.sum =
      c.length * (if extendedDimension ≤ encoder.dimension then 1.9375 else 1.75) ∧
    (vector c = Array.replicate encoder.dimension 0 ↔ c = []) ∧
    ∀ {α : Type} (arithmetic : Arithmetic α),
      accumulate? arithmetic encoder.dimension c =
        some (accumulate arithmetic encoder.dimension c) := by
  intro vector
  have hexact : ∀ codes, vector codes = Array.ofFn fun i : Fin encoder.dimension =>
      (codes.map fun code => share encoder.dimension code i).sum :=
    accumulate_exact encoder.dimension
  have htotal := sum_accumulate encoder.dimension_pos
  refine ⟨size_accumulate .exact _ c, ?_, fun hcount => ?_, fun x hx => ?_, ?_, ?_,
    fun arithmetic => accumulate?_eq_some arithmetic encoder.dimension_pos c⟩
  · rw [hexact, hexact, hexact]
    refine Array.ext (by simp) fun i _ _ => ?_
    simp
  · have hperm : c.Perm d := List.perm_iff_count.mpr hcount
    rw [hexact, hexact]
    exact congrArg Array.ofFn (funext fun i => (hperm.map _).sum_eq)
  · rw [hexact, Array.mem_ofFn] at hx
    obtain ⟨i, rfl⟩ := hx
    refine List.sum_nonneg fun y hy => ?_
    obtain ⟨code, -, rfl⟩ := List.mem_map.mp hy
    exact share_nonneg ..
  · rw [htotal c, weight]
    norm_num
  · constructor
    · intro hzero
      have hsum := htotal c
      rw [show accumulate .exact encoder.dimension c = _ from hzero, Array.toList_replicate,
        List.sum_replicate, nsmul_zero, eq_comm, mul_eq_zero] at hsum
      rcases hsum with hlength | hweight
      · exact List.eq_nil_of_length_eq_zero (Nat.cast_eq_zero.mp hlength)
      · exact absurd hweight (weight_pos _).ne'
    · rintro rfl
      rfl

/-- Two codes at dimension one, in two orders: all they add comes together in one component. -/
theorem accumulate_additive_one :
    let encoder : Encoder := ⟨1, by decide⟩
    accumulate .exact encoder.dimension [7, 5, 7] = accumulate .exact encoder.dimension [5, 7, 7] ∧
      accumulate .exact encoder.dimension [7, 5, 7] = #[5.25] := by
  intro encoder
  obtain ⟨hsize, -, hcount, -, hsum, -⟩ := accumulate_additive encoder [7, 5, 7] [5, 7, 7]
  have hcounts : ∀ code, [7, 5, 7].count code = [5, 7, 7].count code := by
    intro code
    simp only [List.count_cons, List.count_nil]
    omega
  refine ⟨hcount hcounts, ?_⟩
  obtain ⟨x, hx⟩ := Array.size_eq_one_iff.mp hsize
  rw [hx] at hsum ⊢
  simp [encoder, extendedDimension] at hsum
  rw [hsum]
  norm_num

end RecordQuery.Similarity

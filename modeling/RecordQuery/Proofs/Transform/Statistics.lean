import RecordQuery.Proofs.Binary64.Integer
import RecordQuery.Proofs.Binary64.TotalOrder
import RecordQuery.Proofs.Transform.Arrays

/-!
# Order statistics

The numbers of a sample come from the subject and from an option.  Percentiles and summaries are
computed from their list in order of keys, so that they do not depend on where a number comes from
and in which place it stands.

* `Binary64.Leads`, `Binary64.leads_modeFrom`: what a pass through a list in order knows of the
  numbers passed.
* `Binary64.mode_spec`: the mode of a list in order.
* `Binary64.getLastD_spec`: the last element of a list in order.
* `Value.Supplies`: the numbers of a subject and of the option.
* `Value.statistics_of_perm`: the summary and the percentiles of a sample.
-/

namespace RecordQuery

namespace Binary64

/-! ### Multiplicities -/

/-- How many elements of a list are equal to a double as numbers. -/
def multiplicity (x : Float) (xs : List Float) : Nat := xs.countP fun y => x == y

theorem multiplicity_cons (x y : Float) (xs : List Float) :
    multiplicity x (y :: xs) = multiplicity x xs + if x == y then 1 else 0 := List.countP_cons

theorem multiplicity_cons_self {x : Float} (hx : x.isNaN = false) (xs : List Float) :
    multiplicity x (x :: xs) = multiplicity x xs + 1 := by
  rw [multiplicity_cons, beq_self_of_isNaN_eq_false hx, if_pos rfl]

theorem multiplicity_perm {xs ys : List Float} (h : xs.Perm ys) (x : Float) :
    multiplicity x xs = multiplicity x ys := h.countP_eq _

theorem multiplicity_congr {x y : Float} (h : (x == y) = true) (xs : List Float) :
    multiplicity x xs = multiplicity y xs := by
  refine List.countP_congr fun z _ => ⟨fun hx => beq_trans ?_ hx, fun hy => beq_trans h hy⟩
  rwa [beq_comm]

theorem length_filter_agrees {x : Float} (hx : x.isNaN = false) (xs : List Float) :
    (xs.filter (agrees x)).length = multiplicity x xs := by
  have hagrees : agrees x = fun y => x == y := by
    funext y
    rw [agrees, hx, Bool.false_and, Bool.false_or]
  rw [hagrees, multiplicity, List.countP_eq_length_filter]

/-! ### The mode -/

/-- Of the doubles that have been passed, the leading one is most frequent, and the least of those
that are. -/
structure Leads (seen : List Float) (best : Nat) (mode : Float) : Prop where
  mem : mode ∈ seen
  frequency : multiplicity mode seen = best
  most : ∀ y ∈ seen, multiplicity y seen ≤ best
  least : ∀ y ∈ seen, multiplicity y seen = best → mode ≤ y

variable {seen : List Float} {best : Nat} {lead x : Float}

theorem Leads.overtaken (h : Leads seen best lead) (hx : x.isNaN = false)
    (hseen : ∀ y ∈ seen, y.isNaN = false) (hmore : best < multiplicity x seen + 1) :
    Leads (x :: seen) (multiplicity x seen + 1) x := by
  have hself := multiplicity_cons_self hx seen
  refine ⟨List.mem_cons_self, hself,
    List.forall_mem_cons.mpr ⟨Nat.le_of_eq hself, fun y hy => ?_⟩,
    List.forall_mem_cons.mpr
      ⟨fun _ => le_of_beq hx hx (beq_self_of_isNaN_eq_false hx), fun y hy hyx => ?_⟩⟩
  · rw [multiplicity_cons]
    split
    · next heq => rw [multiplicity_congr heq]
    · exact Nat.le_succ_of_le (Nat.le_trans (h.most y hy) (Nat.le_of_lt_succ hmore))
  · rw [multiplicity_cons] at hyx
    split at hyx
    · next heq => exact le_of_beq hx (hseen y hy) (beq_comm x y ▸ heq)
    · exact absurd (h.most y hy) (by omega)

/-- A double that does not become more frequent leaves the lead as it is, unless it stands before
the leading one. -/
theorem Leads.kept (h : Leads seen best lead) (hx : x.isNaN = false)
    (hseen : ∀ y ∈ seen, y.isNaN = false) (hrank : ∀ y ∈ seen, rank y ≤ rank x)
    (hless : multiplicity x seen + 1 ≤ best) : Leads (x :: seen) best lead := by
  have hlead := hseen lead h.mem
  have hle : lead ≤ x := le_of_rank_le hlead hx (hrank lead h.mem)
  refine ⟨List.mem_cons_of_mem _ h.mem, ?_,
    List.forall_mem_cons.mpr ⟨by rwa [multiplicity_cons_self hx], fun y hy => ?_⟩,
    List.forall_mem_cons.mpr ⟨fun _ => hle, fun y hy hyx => ?_⟩⟩
  · rw [multiplicity_cons]
    split
    · next heq =>
      have hfrequency := h.frequency
      rw [multiplicity_congr heq] at hfrequency
      omega
    · exact h.frequency
  · rw [multiplicity_cons]
    split
    · next heq => rwa [multiplicity_congr heq]
    · exact h.most y hy
  · rw [multiplicity_cons] at hyx
    split at hyx
    · next heq => exact (le_congr_of_beq (hseen y hy) hx hlead heq).mpr hle
    · exact h.least y hy hyx

/-- **The lead is kept by a pass through a list in order.** -/
theorem leads_modeFrom : ∀ {rest seen : List Float} {best : Nat} {lead : Float},
    Leads seen best lead → (∀ y ∈ seen, y.isNaN = false) → (∀ y ∈ rest, y.isNaN = false) →
      (∀ y ∈ seen, ∀ x ∈ rest, rank y ≤ rank x) → rest.Pairwise (fun x y => rank x ≤ rank y) →
        ∃ most, Leads (rest.reverse ++ seen) most (modeFrom seen best lead rest) := by
  intro rest
  induction rest with
  | nil => exact fun {seen best lead} h _ _ _ _ => ⟨best, h⟩
  | cons x rest ih =>
    intro seen best lead h hseen hrest hrank hpairwise
    obtain ⟨hx, hrest⟩ := List.forall_mem_cons.mp hrest
    obtain ⟨hxrest, hpairwise⟩ := List.pairwise_cons.mp hpairwise
    have hnext : ∀ y ∈ x :: seen, y.isNaN = false := List.forall_mem_cons.mpr ⟨hx, hseen⟩
    have hnextRank : ∀ y ∈ x :: seen, ∀ z ∈ rest, rank y ≤ rank z :=
      List.forall_mem_cons.mpr ⟨hxrest, fun y hy z hz => hrank y hy z (List.mem_cons_of_mem _ hz)⟩
    rw [modeFrom, length_filter_agrees hx, List.reverse_cons, List.append_assoc]
    split
    · next hmore =>
      exact ih (h.overtaken hx hseen hmore) hnext hrest hnextRank hpairwise
    · next hless =>
      exact ih (h.kept hx hseen (fun y hy => hrank y hy x List.mem_cons_self) (not_lt.mp hless))
        hnext hrest hnextRank hpairwise

/-- **The mode of a list in order** is most frequent in it, and the least double that is. -/
theorem mode_spec {xs : List Float} (hne : xs ≠ []) (hnan : ∀ x ∈ xs, x.isNaN = false)
    (h : xs.Pairwise fun x y => rank x ≤ rank y) :
    mode xs ∈ xs ∧ (∀ y ∈ xs, multiplicity y xs ≤ multiplicity (mode xs) xs) ∧
      ∀ y ∈ xs, multiplicity y xs = multiplicity (mode xs) xs → mode xs ≤ y := by
  cases xs with
  | nil => exact absurd rfl hne
  | cons x rest =>
    obtain ⟨hx, hrest⟩ := List.forall_mem_cons.mp hnan
    obtain ⟨hfirst, hpairwise⟩ := List.pairwise_cons.mp h
    have honce : multiplicity x [x] = 1 := multiplicity_cons_self hx []
    have hstart : Leads [x] 1 x := by
      refine ⟨List.mem_cons_self, honce, ?_, ?_⟩ <;> rw [List.forall_mem_singleton]
      · exact Nat.le_of_eq honce
      · exact fun _ => le_of_beq hx hx (beq_self_of_isNaN_eq_false hx)
    obtain ⟨most, hleads⟩ := leads_modeFrom hstart (List.forall_mem_singleton.mpr hx) hrest
      (List.forall_mem_singleton.mpr hfirst) hpairwise
    have hperm : (rest.reverse ++ [x]).Perm (x :: rest) :=
      List.perm_append_comm.trans (rest.reverse_perm.cons x)
    have hfrequency := hleads.frequency
    rw [show mode (x :: rest) = modeFrom [x] 1 x rest from rfl]
    rw [multiplicity_perm hperm] at hfrequency
    refine ⟨hperm.mem_iff.mp hleads.mem, fun y hy => ?_, fun y hy hyx => ?_⟩
    · rw [hfrequency, ← multiplicity_perm hperm]
      exact hleads.most y (hperm.mem_iff.mpr hy)
    · rw [hfrequency, ← multiplicity_perm hperm] at hyx
      exact hleads.least y (hperm.mem_iff.mpr hy) hyx

/-! ### The last element -/

/-- The last element of a list in order comes behind all others. -/
theorem getLastD_spec {rest : List Float} : ∀ {x : Float},
    (x :: rest).Pairwise (fun x y => rank x ≤ rank y) →
      rest.getLastD x ∈ x :: rest ∧ ∀ y ∈ x :: rest, rank y ≤ rank (rest.getLastD x) := by
  induction rest with
  | nil => exact fun _ => ⟨List.mem_cons_self, List.forall_mem_singleton.mpr (le_refl _)⟩
  | cons y rest ih =>
    intro x h
    obtain ⟨hx, hrest⟩ := List.pairwise_cons.mp h
    obtain ⟨hmem, hlast⟩ := ih hrest
    rw [List.getLastD_cons]
    exact ⟨List.mem_cons_of_mem _ hmem, List.forall_mem_cons.mpr ⟨hx _ hmem, hlast⟩⟩

end Binary64

namespace Value

open Binary64 (sorted rank multiplicity mode ofNat percentile? integer? perm_sorted pairwise_sorted
  sorted_eq_nil_iff sorted_eq_of_perm le_of_rank_le mode_spec getLastD_spec)

/-! ### Samples -/

/-- The numbers of a subject, which is a number or an array of numbers, with those of the option
`array` behind them, which can be missing. -/
def Supplies (subject options : Value) (xs : List Float) : Prop :=
  ∃ own more : List Float, xs = own ++ more ∧
    (subject = .array (own.map .number) ∨ ∃ x, own = [x] ∧ subject = .number x) ∧
    (options.field "array" = .array (more.map .number) ∨
      more = [] ∧ options.field "array" = .undefined)

theorem numbers?_map_number (xs : List Float) : numbers? (xs.map .number) = some xs := by
  induction xs with
  | nil => rfl
  | cons x xs ih => rw [List.map_cons, numbers?, ih, Option.map_some]

theorem Supplies.sample? {subject options : Value} {xs : List Float}
    (h : subject.Supplies options xs) : subject.sample? options = some xs := by
  obtain ⟨own, more, rfl, hown, hmore⟩ := h
  have howns : subject.ownOperands? = some own := by
    rcases hown with rfl | ⟨x, rfl, rfl⟩
    · exact numbers?_map_number own
    · rfl
  have hmores : (options.arrayOption? "array").bind numbers? = some more := by
    rw [arrayOption?]
    rcases hmore with h | ⟨rfl, h⟩ <;> rw [h]
    · exact numbers?_map_number more
    · rfl
  obtain ⟨items, hitems, hnumbers⟩ := Option.bind_eq_some_iff.mp hmores
  simp only [Value.sample?, howns, hitems, hnumbers, Option.bind_eq_bind, Option.bind_some]
  rfl

/-! ### Projections of samples -/

theorem projected?_statistics (functions : Functions) {subject options : Value} {xs : List Float}
    (h : subject.Supplies options xs) :
    subject.projected? functions "$statistics" options = statistics? xs := by
  have hmade : (subject.sample? options).bind statistics? = statistics? xs := by
    rw [h.sample?, Option.bind_some]
  rw [← hmade]
  refine projected?_ofPartial (f := fun subject options =>
    (subject.sample? options).bind statistics?) rfl rfl rfl fun hundefined => ?_
  obtain ⟨ys, -, hys⟩ := Option.bind_eq_some_iff.mp hundefined
  unfold statistics? at hys
  split at hys <;> cases hys

theorem projected?_percentile (functions : Functions) {subject options : Value} {xs : List Float}
    (h : subject.Supplies options xs) :
    subject.projected? functions "$percentile" options =
      (percentile? (sorted xs) ((options.numberOption? "p").getD 50.0)).map Value.number := by
  have hmade : ((subject.sample? options).bind fun xs =>
      (percentile? (sorted xs) ((options.numberOption? "p").getD 50.0)).map Value.number) =
        (percentile? (sorted xs) ((options.numberOption? "p").getD 50.0)).map Value.number := by
    rw [h.sample?, Option.bind_some]
  rw [← hmade]
  refine projected?_ofPartial (f := fun subject options => (subject.sample? options).bind fun xs =>
    (percentile? (sorted xs) ((options.numberOption? "p").getD 50.0)).map Value.number)
    rfl rfl rfl fun hundefined => ?_
  obtain ⟨ys, -, hys⟩ := Option.bind_eq_some_iff.mp hundefined
  obtain ⟨z, -, hz⟩ := Option.map_eq_some_iff.mp hys
  cases hz

theorem statistics?_eq_none_iff {xs : List Float} : statistics? xs = none ↔ xs = [] := by
  rw [← sorted_eq_nil_iff, statistics?]
  cases sorted xs <;> simp

theorem statistics?_of_perm {xs ys : List Float} (h : xs.Perm ys) :
    statistics? xs = statistics? ys := by
  rw [statistics?, statistics?, sorted_eq_of_perm h]

/-- **A summary tells the mode, the ends and the number of a sample.** -/
theorem statistics?_spec {xs : List Float} (hne : xs ≠ []) (hnan : ∀ x ∈ xs, x.isNaN = false) :
    ∃ (summary : Value) (mode least most : Float), statistics? xs = some summary ∧
      summary.field "mode" = .number mode ∧ summary.field "min" = .number least ∧
      summary.field "max" = .number most ∧ summary.field "count" = .number (ofNat xs.length) ∧
      (mode ∈ xs ∧ (∀ y ∈ xs, multiplicity y xs ≤ multiplicity mode xs) ∧
        ∀ y ∈ xs, multiplicity y xs = multiplicity mode xs → mode ≤ y) ∧
      (least ∈ xs ∧ ∀ y ∈ xs, least ≤ y) ∧ most ∈ xs ∧ ∀ y ∈ xs, y ≤ most := by
  have hperm := perm_sorted xs
  have hpairwise := pairwise_sorted xs
  have hmem : ∀ {x : Float}, x ∈ sorted xs ↔ x ∈ xs := hperm.mem_iff
  have hsorted : ∀ x ∈ sorted xs, x.isNaN = false := fun x hx => hnan x (hmem.mp hx)
  obtain ⟨hmode, hmost, hleast⟩ :=
    mode_spec (mt sorted_eq_nil_iff.mp hne) hsorted hpairwise
  simp only [Binary64.multiplicity_perm hperm] at hmost hleast
  cases hlist : sorted xs with
  | nil => exact absurd (sorted_eq_nil_iff.mp hlist) hne
  | cons first rest =>
    rw [hlist] at hmode hmost hleast hperm hpairwise hmem hsorted
    obtain ⟨hlast, hbehind⟩ := getLastD_spec hpairwise
    have hfirst := (List.pairwise_cons.mp hpairwise).1
    refine ⟨_, mode (first :: rest), first, rest.getLastD first, by rw [statistics?, hlist],
      rfl, rfl, rfl, ?_,
      ⟨hmem.mp hmode, fun y hy => hmost y (hmem.mpr hy), fun y hy => hleast y (hmem.mpr hy)⟩,
      ⟨hmem.mp List.mem_cons_self, fun y hy => ?_⟩, hmem.mp hlast, fun y hy => ?_⟩
    · rw [← hperm.length_eq]
      rfl
    · refine le_of_rank_le (hsorted first List.mem_cons_self) (hnan y hy) ?_
      rcases List.mem_cons.mp (hmem.mpr hy) with rfl | hrest
      · exact le_refl _
      · exact hfirst y hrest
    · exact le_of_rank_le (hnan y hy) (hsorted _ hlast) (hbehind y (hmem.mpr hy))

/-- **Order statistics do not depend on the order of the numbers.**  However a sample is distributed
between the subject and the option `array`, and in whatever order it stands, the summary and the
percentiles are the same, down to the bits.  If no number is NaN, the mode is most frequent, and the
least of the numbers that are; the ends are the least and the greatest number; and the count is how
many there are, exact below 2 ^ 53. -/
theorem statistics_of_perm (functions : Functions) {subject options other otherOptions : Value}
    {xs ys : List Float} (hx : subject.Supplies options xs) (hy : other.Supplies otherOptions ys)
    (hperm : xs.Perm ys) :
    subject.projected? functions "$statistics" options =
      other.projected? functions "$statistics" otherOptions ∧
    (options.numberOption? "p" = otherOptions.numberOption? "p" →
      subject.projected? functions "$percentile" options =
        other.projected? functions "$percentile" otherOptions) ∧
    (subject.projected? functions "$statistics" options = none ↔ xs = []) ∧
    (xs ≠ [] → (∀ x ∈ xs, x.isNaN = false) → ∃ (summary : Value) (mode least most count : Float),
      subject.projected? functions "$statistics" options = some summary ∧
      summary.field "mode" = .number mode ∧ summary.field "min" = .number least ∧
      summary.field "max" = .number most ∧ summary.field "count" = .number count ∧
      (mode ∈ xs ∧ (∀ y ∈ xs, multiplicity y xs ≤ multiplicity mode xs) ∧
        ∀ y ∈ xs, multiplicity y xs = multiplicity mode xs → mode ≤ y) ∧
      (least ∈ xs ∧ ∀ y ∈ xs, least ≤ y) ∧ (most ∈ xs ∧ ∀ y ∈ xs, y ≤ most) ∧
      count = ofNat xs.length ∧
      (xs.length < 2 ^ 53 → integer? count = some (xs.length : Int))) := by
  rw [projected?_statistics functions hx, projected?_statistics functions hy,
    projected?_percentile functions hx, projected?_percentile functions hy]
  refine ⟨statistics?_of_perm hperm, fun hp => by rw [hp, sorted_eq_of_perm hperm],
    statistics?_eq_none_iff, fun hne hnan => ?_⟩
  obtain ⟨summary, mode, least, most, hmade, hmode, hleast, hmost, hcount, hmodes,
    hleasts, hmosts⟩ :=
    statistics?_spec hne hnan
  refine ⟨summary, mode, least, most, _, hmade, hmode, hleast, hmost, hcount, hmodes,
    hleasts, hmosts, rfl, fun hlength => ?_⟩
  exact Binary64.integer?_ofInt (n := xs.length) (Binary64.log2_lt_iff.mpr hlength)

/-- A sample with both zeros, which are equal as numbers: three numbers in two distributions. -/
theorem statistics_of_perm_zeros :
    let functions : Functions := fun _ _ => .undefined
    let subject : Value := .array [.number 1.0, .number (-0.0)]
    let options : Value := .record [("array", .array [.number 0.0]), ("p", .number 50.0)]
    let other : Value := .number 0.0
    let otherOptions : Value :=
      .record [("p", .number 50.0), ("array", .array [.number (-0.0), .number 1.0])]
    let sample : List Float := [1.0, -0.0, 0.0]
    (subject.Supplies options sample ∧ other.Supplies otherOptions [0.0, -0.0, 1.0] ∧
      sample.Perm [0.0, -0.0, 1.0] ∧ options.numberOption? "p" = otherOptions.numberOption? "p" ∧
      sample ≠ [] ∧ ∀ x ∈ sample, x.isNaN = false) ∧
    subject.projected? functions "$statistics" options =
      other.projected? functions "$statistics" otherOptions ∧
    subject.projected? functions "$percentile" options =
      other.projected? functions "$percentile" otherOptions ∧
    ∃ (summary : Value) (mode : Float),
      subject.projected? functions "$statistics" options = some summary ∧
      summary.field "mode" = .number mode ∧ mode ≤ 0.0 ∧ 2 ≤ multiplicity mode sample := by
  intro functions subject options other otherOptions sample
  have hx : subject.Supplies options sample :=
    ⟨[1.0, -0.0], [0.0], rfl, .inl rfl, .inl rfl⟩
  have hy : other.Supplies otherOptions [0.0, -0.0, 1.0] :=
    ⟨[0.0], [-0.0, 1.0], rfl, .inr ⟨_, rfl, rfl⟩, .inl rfl⟩
  have hperm : sample.Perm [0.0, -0.0, 1.0] := List.reverse_perm [0.0, -0.0, 1.0]
  have hnan : ∀ x ∈ sample, x.isNaN = false := by decide
  obtain ⟨hsummary, hpercentile, -, hstatistics⟩ := statistics_of_perm functions hx hy hperm
  obtain ⟨summary, mode, -, -, -, hmade, hmode, -, -, -, ⟨hmem, hmost, hleast⟩, -⟩ :=
    hstatistics (by decide) hnan
  have hzero : (0.0 : Float) ∈ sample := by simp [sample]
  have htwice : 2 ≤ multiplicity mode sample := hmost 0.0 hzero
  have hbound : ∀ y ∈ sample, multiplicity y sample ≤ multiplicity 0.0 sample := by decide
  exact ⟨⟨hx, hy, hperm, rfl, by decide, hnan⟩, hsummary, hpercentile rfl, summary,
    mode, hmade, hmode, hleast 0.0 hzero (le_antisymm (hmost 0.0 hzero) (hbound mode hmem)), htwice⟩

end Value

end RecordQuery

import Mathlib.Data.List.Basic
import RecordQuery.Predicate.Textual
import RecordQuery.Proofs.Assoc
import RecordQuery.Regex.Cache
import RecordQuery.Transform.Textual

/-!
# The cache of regular expressions cannot be seen

Whatever the order in which calls take their steps, a call finishes with what it would have read
itself.  The reason is that all that is ever kept is what reading makes of its source: the cache may
fill up between the lookup of a call and its storing, or come to hold the same expression, but it
never holds another one under that source.

* `Regex.Traffic.Sound`: the cache is small and holds what reading makes; so do the calls.
* `Regex.Traffic.sound_advance`, `Regex.Traffic.sound_run`: one step keeps this, and so does a run.
* `Regex.Traffic.remaining_run`: three steps of its own finish a call.
* `Regex.Traffic.run_unseen`: no call, and none of the operators that read expressions, sees the
  cache.
-/

namespace RecordQuery.Regex

/-! ### Storing -/

namespace Cache

/-- The cache is no larger than it may be, and holds what reading makes of its sources. -/
structure Sound (cache : Cache) : Prop where
  bounded : cache.length ≤ capacity
  entries : ∀ entry ∈ cache, read? entry.1 = some entry.2

/-- Whether the expression of a source is kept, or there is no room for it. -/
def Keeps (cache : Cache) (source : String) : Prop :=
  source ∈ Assoc.keys cache ∨ cache.length = capacity

variable {cache : Cache} {source : String} {regex : Regex}

theorem Sound.of_get? (h : cache.Sound) (hg : Assoc.get? source cache = some regex) :
    read? source = some regex := h.entries (source, regex) (Assoc.mem_of_get? hg)

theorem Sound.store (h : cache.Sound) (hr : read? source = some regex) :
    (cache.store source regex).Sound := by
  unfold Cache.store
  split
  · next hroom =>
    refine ⟨Nat.le_trans (Assoc.length_insert_le ..) hroom, fun entry he => ?_⟩
    rcases Assoc.mem_insert he with rfl | he
    · exact hr
    · exact h.entries entry he
  · exact h

theorem keeps_store (h : cache.Sound) (source : String) (regex : Regex) :
    (cache.store source regex).Keeps source := by
  unfold Cache.store
  split
  · exact Or.inl (Assoc.mem_keys_insert_iff.mpr (Or.inl rfl))
  · next hroom => exact Or.inr (Nat.le_antisymm h.bounded (Nat.le_of_not_lt hroom))

theorem Keeps.store {other : String} (h : cache.Keeps other) (source : String) (regex : Regex) :
    (cache.store source regex).Keeps other := by
  unfold Cache.store
  split
  · next hroom =>
    rcases h with hm | hfull
    · exact Or.inl (Assoc.mem_keys_insert_iff.mpr (Or.inr hm))
    · omega
  · exact h

end Cache

/-! ### One step -/

namespace Call

/-- What a call knows is what reading makes of its source; and what it has read is kept. -/
def Sound (call : Call) (cache : Cache) : Prop :=
  match call.phase with
  | .lookUp => True
  | .read => True
  | .store regex => read? call.source = some regex
  | .finished result =>
    result = read? call.source ∧ (result.isSome = true → cache.Keeps call.source)

/-- The number of steps that a call has before it. -/
def remaining (call : Call) : Nat :=
  match call.phase with
  | .lookUp => 3
  | .read => 2
  | .store _ => 1
  | .finished _ => 0

variable {call : Call} {cache : Cache}

theorem sound_write (h : call.Sound cache) (hc : cache.Sound) : (call.write cache).Sound := by
  obtain ⟨source, phase⟩ := call
  cases phase with
  | store regex => exact hc.store h
  | _ => exact hc

/-- What another call writes makes no difference to what a call knows. -/
theorem Sound.of_write {other : Call} (h : other.Sound cache) (call : Call) :
    other.Sound (call.write cache) := by
  obtain ⟨source, phase⟩ := call
  cases phase with
  | store regex =>
    obtain ⟨otherSource, otherPhase⟩ := other
    cases otherPhase with
    | finished result => exact ⟨h.1, fun hr => (h.2 hr).store source regex⟩
    | _ => exact h
  | _ => exact h

theorem sound_step (h : call.Sound cache) (hc : cache.Sound) :
    (call.step cache).1.Sound (call.step cache).2 := by
  obtain ⟨source, phase⟩ := call
  cases phase with
  | lookUp =>
    cases hg : Assoc.get? source cache with
    | none => simp [step, next, write, Sound, hg]
    | some regex =>
      have hkeeps : cache.Keeps source := Or.inl (Assoc.mem_keys_of_mem (Assoc.mem_of_get? hg))
      simp [step, next, write, Sound, hg, hc.of_get? hg, hkeeps]
  | read =>
    cases hr : read? source with
    | none => simp [step, next, write, Sound, hr]
    | some regex => simp [step, next, write, Sound, hr]
  | store regex =>
    have hr : read? source = some regex := h
    simp [step, next, write, Sound, hr, Cache.keeps_store hc]
  | finished result => exact h

theorem remaining_step (call : Call) (cache : Cache) :
    (call.step cache).1.remaining ≤ call.remaining - 1 := by
  obtain ⟨source, phase⟩ := call
  cases phase with
  | lookUp => cases hg : Assoc.get? source cache <;> simp [step, next, remaining, hg]
  | read => cases hr : read? source <;> simp [step, next, remaining, hr]
  | store regex => exact Nat.le_refl _
  | finished result => exact Nat.le_refl _

theorem exists_finished_of_remaining (h : call.remaining = 0) :
    ∃ result, call.phase = .finished result := by
  obtain ⟨source, phase⟩ := call
  cases phase with
  | finished result => exact ⟨result, rfl⟩
  | _ => cases h

end Call

/-! ### Any number of calls -/

namespace Traffic

/-- The cache is sound, and so is what every call knows. -/
structure Sound (traffic : Traffic) : Prop where
  cache : traffic.cache.Sound
  calls : ∀ call ∈ traffic.calls, call.Sound traffic.cache

theorem sound_start (sources : List String) : (start sources).Sound := by
  refine ⟨⟨Nat.zero_le _, fun entry he => absurd he List.not_mem_nil⟩, fun call hc => ?_⟩
  obtain ⟨source, -, rfl⟩ := List.mem_map.mp hc
  trivial

theorem advance_of_get? {traffic : Traffic} {index : Nat} {call : Call}
    (h : traffic.calls[index]? = some call) :
    traffic.advance index = { cache := (call.step traffic.cache).2
                              calls := traffic.calls.set index (call.step traffic.cache).1 } := by
  simp [advance, h]

theorem advance_of_get?_eq_none {traffic : Traffic} {index : Nat}
    (h : traffic.calls[index]? = none) : traffic.advance index = traffic := by
  simp [advance, h]

/-- **Every step of every call keeps the cache and the calls sound.** -/
theorem sound_advance {traffic : Traffic} (h : traffic.Sound) (index : Nat) :
    (traffic.advance index).Sound := by
  cases hg : traffic.calls[index]? with
  | none => rwa [advance_of_get?_eq_none hg]
  | some call =>
    rw [advance_of_get? hg]
    have hcall := h.calls call (List.mem_of_getElem? hg)
    refine ⟨Call.sound_write hcall h.cache, fun other ho => ?_⟩
    rcases List.mem_or_eq_of_mem_set ho with ho | rfl
    · exact (h.calls other ho).of_write call
    · exact Call.sound_step hcall h.cache

theorem sound_run {traffic : Traffic} (h : traffic.Sound) (schedule : List Nat) :
    (traffic.run schedule).Sound := by
  induction schedule generalizing traffic with
  | nil => exact h
  | cons index schedule ih => exact ih (sound_advance h index)

theorem sources_advance (traffic : Traffic) (index : Nat) :
    (traffic.advance index).calls.map Call.source = traffic.calls.map Call.source := by
  cases hg : traffic.calls[index]? with
  | none => rw [advance_of_get?_eq_none hg]
  | some call =>
    obtain ⟨hlt, rfl⟩ := List.getElem?_eq_some_iff.mp hg
    have hsame : (traffic.calls[index].step traffic.cache).1.source =
        traffic.calls[index].source := rfl
    rw [advance_of_get? hg, List.map_set, hsame, ← List.map_set, List.set_getElem_self]

theorem sources_run (traffic : Traffic) (schedule : List Nat) :
    (traffic.run schedule).calls.map Call.source = traffic.calls.map Call.source := by
  induction schedule generalizing traffic with
  | nil => rfl
  | cons index schedule ih =>
    exact (ih (traffic.advance index)).trans (sources_advance traffic index)

/-- A step brings its own call nearer to its end, and the others no farther from theirs. -/
theorem remaining_advance {traffic : Traffic} {place : Nat} {call : Call}
    (h : traffic.calls[place]? = some call) (index : Nat) :
    ∃ later, (traffic.advance index).calls[place]? = some later ∧
      later.remaining ≤ call.remaining - [index].count place := by
  by_cases hi : index = place
  · subst hi
    rw [advance_of_get? h]
    refine ⟨(call.step traffic.cache).1, ?_, ?_⟩
    · rw [List.getElem?_set_self (List.getElem?_eq_some_iff.mp h).1]
    · rw [List.count_singleton_self]
      exact Call.remaining_step call traffic.cache
  · refine ⟨call, ?_, ?_⟩
    · cases hg : traffic.calls[index]? with
      | none => rwa [advance_of_get?_eq_none hg]
      | some other => rw [advance_of_get? hg, List.getElem?_set_ne hi, h]
    · rw [List.count_singleton, if_neg (by simpa using hi)]
      exact Nat.le_refl _

/-- **The steps that a call takes are steps towards its end**, whatever comes between them. -/
theorem remaining_run {traffic : Traffic} {place : Nat} {call : Call}
    (h : traffic.calls[place]? = some call) (schedule : List Nat) :
    ∃ later, (traffic.run schedule).calls[place]? = some later ∧
      later.remaining ≤ call.remaining - schedule.count place := by
  induction schedule generalizing traffic call with
  | nil => exact ⟨call, h, Nat.le_refl _⟩
  | cons index schedule ih =>
    obtain ⟨next, hnext, hfirst⟩ := remaining_advance h index
    obtain ⟨later, hlater, hrest⟩ := ih hnext
    refine ⟨later, hlater, Nat.le_trans hrest ?_⟩
    rw [← List.singleton_append, List.count_append]
    omega

/-- What calls for a source have been answered, in some traffic. -/
def Returned (source : String) (result : Option Regex) : Prop :=
  ∃ sources schedule,
    { source, phase := .finished result : Call } ∈ ((start sources).run schedule).calls

theorem exists_call_of_get? {sources : List String} {index : Nat} {source : String}
    (h : sources[index]? = some source) (schedule : List Nat) :
    ∃ call, ((start sources).run schedule).calls[index]? = some call ∧ call.source = source ∧
      call.Sound ((start sources).run schedule).cache ∧
        call.remaining ≤ 3 - schedule.count index := by
  have hstart : (start sources).calls[index]? = some (.start source) := by
    rw [start, List.getElem?_map, h, Option.map_some]
  obtain ⟨call, hcall, hremaining⟩ := remaining_run hstart schedule
  have hsource := congrArg (·[index]?) (sources_run (start sources) schedule)
  rw [List.getElem?_map, List.getElem?_map, hcall, hstart, Option.map_some, Option.map_some,
    Option.some.injEq] at hsource
  have hsound := (sound_run (sound_start sources) schedule).calls call (List.mem_of_getElem? hcall)
  exact ⟨call, hcall, hsource, hsound, hremaining⟩

theorem phase_of_count {sources : List String} {index : Nat} {source : String}
    (h : sources[index]? = some source) {schedule : List Nat} (hc : 3 ≤ schedule.count index) :
    ((start sources).run schedule).calls[index]? =
      some { source, phase := .finished (read? source) } := by
  obtain ⟨call, hcall, rfl, hsound, hremaining⟩ := exists_call_of_get? h schedule
  have hzero : call.remaining = 0 := by omega
  obtain ⟨result, hphase⟩ := Call.exists_finished_of_remaining hzero
  obtain ⟨source, phase⟩ := call
  cases hphase
  rw [hcall, hsound.1]

/-- **A source is answered with what reading makes of it, and with nothing else.** -/
theorem returned_iff {source : String} {result : Option Regex} :
    Returned source result ↔ result = read? source := by
  constructor
  · rintro ⟨sources, schedule, hm⟩
    exact ((sound_run (sound_start sources) schedule).calls _ hm).1
  · rintro rfl
    have hsingle : [source][0]? = some source := rfl
    have hthree : 3 ≤ [0, 0, 0].count 0 := by decide
    exact ⟨[source], [0, 0, 0], List.mem_of_getElem? (phase_of_count hsingle hthree)⟩

/-- **The cache cannot be seen.**  In any traffic, and however the steps of its calls are ordered,
the cache stays within its capacity and holds nothing but what reading makes of its sources.  Every
call that finishes returns what reading makes of its source, and it finishes with its third step at
the latest; what it has read is kept, if there is room.  So the operators that read expressions
answer the same with what calls have returned in any traffic. -/
theorem run_unseen (sources : List String) (schedule : List Nat) :
    ((start sources).run schedule).cache.length ≤ Cache.capacity ∧
    (∀ entry ∈ ((start sources).run schedule).cache, read? entry.1 = some entry.2) ∧
    (∀ index source, sources[index]? = some source → ∃ phase,
      ((start sources).run schedule).calls[index]? = some { source, phase } ∧
        (∀ result, phase = .finished result → result = read? source ∧
          (result.isSome = true → ((start sources).run schedule).cache.Keeps source)) ∧
        (3 ≤ schedule.count index → phase = .finished (read? source))) ∧
    ∀ reader : String → Option Regex, (∀ source, Returned source (reader source)) →
      Predicate.matchesRegex reader = Predicate.matchesRegex read? ∧
        Value.replaceText? reader = Value.replaceText? read? := by
  have hsound := sound_run (sound_start sources) schedule
  refine ⟨hsound.cache.bounded, hsound.cache.entries, fun index source hs => ?_,
    fun reader hreader => ?_⟩
  · obtain ⟨⟨_, phase⟩, hcall, rfl, hknows, -⟩ := exists_call_of_get? hs schedule
    refine ⟨phase, hcall, fun result hp => ?_, fun hc => ?_⟩
    · subst hp
      exact hknows
    · have hfinished := phase_of_count hs hc
      rw [hcall, Option.some.injEq, Call.mk.injEq] at hfinished
      exact hfinished.2
  · have hsame : reader = read? := funext fun source => returned_iff.mp (hreader source)
    rw [hsame]
    exact ⟨rfl, rfl⟩

/-- Two calls for one source that come in each other's way at every step: neither finds the
expression, and both read and store it. -/
theorem run_unseen_twice :
    let schedule := [0, 1, 0, 1, 0, 1]
    3 ≤ schedule.count 0 ∧ 3 ≤ schedule.count 1 ∧
      ∀ index < 2, ((start ["a", "a"]).run schedule).calls[index]? =
        some { source := "a", phase := .finished (read? "a") } := by
  intro schedule
  have hfirst : 3 ≤ schedule.count 0 := by decide
  have hsecond : 3 ≤ schedule.count 1 := by decide
  obtain ⟨-, -, hcalls, -⟩ := run_unseen ["a", "a"] schedule
  refine ⟨hfirst, hsecond, fun index hi => ?_⟩
  match index with
  | 0 =>
    obtain ⟨phase, hcall, -, hdone⟩ := hcalls 0 "a" rfl
    rw [hcall, hdone hfirst]
  | 1 =>
    obtain ⟨phase, hcall, -, hdone⟩ := hcalls 1 "a" rfl
    rw [hcall, hdone hsecond]

end Traffic

end RecordQuery.Regex

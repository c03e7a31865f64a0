import Mathlib.Data.List.Infix
import RecordQuery.Text.Search

/-!
# First occurrences

A search goes from left to right, so that what is in front of the place it finds does not hold the
text looked for. The parts between separators are what such searches leave, one behind the other.

* `aroundFirst?_eq_none_iff`, `not_isInfix_of_aroundFirst?`: a search that fails, and what is in
  front of the place of one that does not.
* `aroundFirst?_append`: a text without repeated characters is found behind whatever does not hold
  it.
* `splitAtText_eq`: splitting search by search.
* `joinWith_splitAtText`, `not_isInfix_of_mem_splitAtText`: the parts between the occurrences of a
  separator.
-/

namespace RecordQuery.Text

variable {needle separator front cs before after : List Char}

/-! ### Searches -/

theorem dropFront?_append (front rest : List Char) :
    dropFront? front (front ++ rest) = some rest := by
  induction front with
  | nil => rfl
  | cons c front ih => rw [List.cons_append, dropFront?, if_pos (beq_self_eq_true c), ih]

theorem dropFront?_eq_none_iff : dropFront? front cs = none ↔ ¬ front <+: cs := by
  refine ⟨fun hnone => ?_, fun hstart => ?_⟩
  · rintro ⟨rest, rfl⟩
    rw [dropFront?_append] at hnone
    cases hnone
  · rw [Option.eq_none_iff_forall_ne_some]
    exact fun rest hsome => hstart ⟨rest, append_of_dropFront? hsome⟩

theorem aroundFirst?_nil (hne : needle ≠ []) : aroundFirst? needle [] = none := by
  rw [aroundFirst?, if_neg hne]

theorem aroundFirst?_of_isPrefix (h : needle ≠ [] ∨ after ≠ []) :
    aroundFirst? needle (needle ++ after) = some ([], after) := by
  cases hcs : needle ++ after with
  | nil =>
    obtain ⟨rfl, rfl⟩ := List.append_eq_nil_iff.mp hcs
    exact absurd h (by simp)
  | cons c cs => rw [aroundFirst?, ← hcs, dropFront?_append]

theorem aroundFirst?_cons {c : Char} (h : ¬ needle <+: c :: cs) :
    aroundFirst? needle (c :: cs) =
      (aroundFirst? needle cs).map fun found => (c :: found.1, found.2) := by
  rw [aroundFirst?, dropFront?_eq_none_iff.mpr h]

theorem aroundFirst?_eq_none_iff (hne : needle ≠ []) :
    aroundFirst? needle cs = none ↔ ¬ needle <:+: cs := by
  induction cs with
  | nil => simp [aroundFirst?_nil hne, hne]
  | cons c cs ih =>
    rw [List.infix_cons_iff]
    by_cases hstart : needle <+: c :: cs
    · obtain ⟨rest, hrest⟩ := hstart
      rw [← hrest, aroundFirst?_of_isPrefix (.inl hne)]
      simp
    · rw [aroundFirst?_cons hstart, Option.map_eq_none_iff, ih]
      simp [hstart]

/-- **What is in front of the first occurrence** does not hold the text. -/
theorem not_isInfix_of_aroundFirst? (hne : needle ≠ [])
    (h : aroundFirst? needle cs = some (before, after)) : ¬ needle <:+: before := by
  induction cs generalizing before with
  | nil => rw [aroundFirst?_nil hne] at h; cases h
  | cons c cs ih =>
    by_cases hstart : needle <+: c :: cs
    · obtain ⟨rest, hrest⟩ := hstart
      rw [← hrest, aroundFirst?_of_isPrefix (.inl hne), Option.some.injEq, Prod.mk.injEq] at h
      rw [← h.1, List.infix_nil]
      exact hne
    · rw [aroundFirst?_cons hstart, Option.map_eq_some_iff] at h
      obtain ⟨⟨front, rest⟩, hfound, heq⟩ := h
      obtain ⟨rfl, rfl⟩ : c :: front = before ∧ rest = after := by simpa using heq
      rw [List.infix_cons_iff, not_or]
      refine ⟨fun hfront => hstart (hfront.trans ?_), ih hfound⟩
      rw [← append_of_aroundFirst? hfound, List.append_assoc]
      exact ⟨needle ++ rest, rfl⟩

/-- A text that begins within `front` and ends behind it has the last characters of `front` in front
of the first character of what is behind. -/
theorem isPrefix_of_isPrefix_append (hnodup : needle.Nodup) (hne : front ≠ [])
    (h : needle <+: front ++ (needle ++ after)) : needle <+: front := by
  rcases Nat.lt_or_ge front.length needle.length with hlt | hle
  · exfalso
    -- the end of the text would be its front, too, so that its first character would stand in it
    -- twice
    obtain ⟨tail, rfl⟩ := List.prefix_of_prefix_length_le (List.prefix_append front _) h hlt.le
    rw [List.prefix_append_right_inj] at h
    obtain ⟨c, front, rfl⟩ := List.exists_cons_of_ne_nil hne
    obtain ⟨d, tail, rfl⟩ := List.exists_cons_of_ne_nil (l := tail) (by rintro rfl; simp at hlt)
    obtain rfl : d = c := by
      rw [List.cons_append, List.cons_append, List.cons_prefix_cons] at h
      exact h.1
    simp at hnodup
  · exact List.prefix_of_prefix_length_le h (List.prefix_append ..) hle

/-- **A text without repeated characters** is found behind whatever does not hold it. -/
theorem aroundFirst?_append (hnodup : needle.Nodup) (hne : needle ≠ [])
    (h : ¬ needle <:+: before) :
    aroundFirst? needle (before ++ (needle ++ after)) = some (before, after) := by
  induction before with
  | nil => exact aroundFirst?_of_isPrefix (.inl hne)
  | cons c before ih =>
    rw [List.infix_cons_iff, not_or] at h
    have hstart : ¬ needle <+: c :: (before ++ (needle ++ after)) := fun hp =>
      h.1 (isPrefix_of_isPrefix_append hnodup (List.cons_ne_nil c before) hp)
    rw [List.cons_append, aroundFirst?_cons hstart, ih h.2]
    rfl

/-! ### Parts between separators -/

theorem splitPassing_append (passed : List Char) (part rest : List Char) :
    splitPassing separator passed.length part (passed ++ rest) =
      splitPassing separator 0 part rest := by
  induction passed with
  | nil => rfl
  | cons c passed ih => rw [List.cons_append, List.length_cons, splitPassing, ih]

theorem splitPassing_eq (hne : separator ≠ []) (part : List Char) :
    splitPassing separator 0 part cs =
      match aroundFirst? separator cs with
      | none => [part.reverse ++ cs]
      | some (before, after) => (part.reverse ++ before) :: splitAtText separator after := by
  induction cs generalizing part with
  | nil => rw [aroundFirst?_nil hne, splitPassing, List.append_nil]
  | cons c cs ih =>
    rw [splitPassing]
    by_cases hstart : separator <+: c :: cs
    · rw [if_pos (List.isPrefixOf_iff_prefix.mpr hstart)]
      obtain ⟨rest, hrest⟩ := hstart
      obtain ⟨d, ds, rfl⟩ := List.exists_cons_of_ne_nil hne
      rw [List.cons_append, List.cons.injEq] at hrest
      obtain ⟨rfl, rfl⟩ := hrest
      rw [← List.cons_append, aroundFirst?_of_isPrefix (.inl hne), List.length_cons,
        Nat.add_sub_cancel, splitPassing_append]
      dsimp only
      rw [List.append_nil, splitAtText]
    · rw [if_neg (by rwa [List.isPrefixOf_iff_prefix]), ih, aroundFirst?_cons hstart]
      cases aroundFirst? separator cs <;> simp

/-- **Splitting search by search.** -/
theorem splitAtText_eq (hne : separator ≠ []) (cs : List Char) :
    splitAtText separator cs =
      match aroundFirst? separator cs with
      | none => [cs]
      | some (before, after) => before :: splitAtText separator after := by
  rw [splitAtText, splitPassing_eq hne]
  rfl

/-- A text is without the separator, or has its rest behind the first occurrence. -/
theorem splitting_induct {motive : List Char → Prop} (hne : separator ≠ [])
    (last : ∀ cs, aroundFirst? separator cs = none → motive cs)
    (part : ∀ cs before after, aroundFirst? separator cs = some (before, after) → motive after →
      motive cs) (cs : List Char) : motive cs := by
  induction hn : cs.length using Nat.strongRecOn generalizing cs with
  | ind n ih =>
    cases hfound : aroundFirst? separator cs with
    | none => exact last cs hfound
    | some found =>
      obtain ⟨before, after⟩ := found
      refine part cs before after hfound (ih after.length ?_ after rfl)
      have hlength := congrArg List.length (append_of_aroundFirst? hfound)
      have := List.length_pos_iff.mpr hne
      simp only [List.length_append] at hlength
      omega

theorem splitAtText_ne_nil (hne : separator ≠ []) (cs : List Char) :
    splitAtText separator cs ≠ [] := by
  rw [splitAtText_eq hne]
  split <;> exact List.cons_ne_nil _ _

theorem joinWith_cons {parts : List (List Char)} (h : parts ≠ []) (part : List Char) :
    joinWith separator (part :: parts) = part ++ separator ++ joinWith separator parts := by
  cases parts with
  | nil => exact absurd rfl h
  | cons next parts => rfl

/-- **The parts with the separator between them are the text.** -/
theorem joinWith_splitAtText (hne : separator ≠ []) (cs : List Char) :
    joinWith separator (splitAtText separator cs) = cs := by
  induction cs using splitting_induct hne with
  | last cs hnone => rw [splitAtText_eq hne, hnone]; rfl
  | part cs before after hfound ih =>
    rw [splitAtText_eq hne, hfound]
    dsimp only
    rw [joinWith_cons (splitAtText_ne_nil hne after), ih, append_of_aroundFirst? hfound]

/-- **No part holds the separator.** -/
theorem not_isInfix_of_mem_splitAtText (hne : separator ≠ []) {cs part : List Char}
    (h : part ∈ splitAtText separator cs) : ¬ separator <:+: part := by
  induction cs using splitting_induct hne with
  | last cs hnone =>
    rw [splitAtText_eq hne, hnone, List.mem_singleton] at h
    rwa [h, ← aroundFirst?_eq_none_iff hne]
  | part cs before after hfound ih =>
    rw [splitAtText_eq hne, hfound, List.mem_cons] at h
    obtain rfl | h := h
    · exact not_isInfix_of_aroundFirst? hne hfound
    · exact ih h

theorem joinWith_nil_map_singleton (cs : List Char) : joinWith [] (cs.map fun c => [c]) = cs := by
  induction cs with
  | nil => rfl
  | cons c cs ih =>
    cases cs with
    | nil => rfl
    | cons d cs =>
      rw [List.map_cons, joinWith_cons (by simp), ih]
      rfl

end RecordQuery.Text

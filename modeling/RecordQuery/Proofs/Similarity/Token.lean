import Mathlib.Data.List.Infix
import Mathlib.Data.List.TakeWhile
import RecordQuery.Similarity.Token

/-!
# The tokens of a text

Nothing but white space is lost between the tokens of a text.

* `Token.chars_next`: the first token and the rest make up the text.
* `Token.not_isBlank_of_mem_next`: a token has no white space.
* `Token.flatMap_chars_readAll`: the tokens together are the text without its white space.
* `Token.chars_ne_nil_of_mem_readAll`: no token is empty.
-/

namespace RecordQuery.Similarity.Token

/-- Between the blank and the control for a next line there is no white space, nor beyond the
ideographic space. -/
theorem not_isBlank_of_code {c : Char}
    (h : (0x20 < c.toNat ∧ c.toNat < 0x85) ∨ 0x3000 < c.toNat) : Text.isBlank c = false := by
  simp only [Text.isBlank, Text.blanks, Text.CodeRanges.contains, List.any_cons, List.any_nil,
    Bool.or_eq_false_iff, Bool.and_eq_false_iff, decide_eq_false_iff_not, and_true]
  omega

theorem not_isBlank_of_isDigit {c : Char} (h : c.isDigit = true) : Text.isBlank c = false := by
  simp only [Char.isDigit, Bool.and_eq_true, decide_eq_true_eq] at h
  have hlow : 48 ≤ c.toNat := h.1
  have hhigh : c.toNat ≤ 57 := h.2
  exact not_isBlank_of_code (Or.inl ⟨by omega, by omega⟩)

theorem fractionDigits_append_drop {cs : List Char} (h : fractionDigits cs ≠ []) :
    '.' :: fractionDigits cs ++ cs.drop ((fractionDigits cs).length + 1) = cs := by
  unfold fractionDigits at h ⊢
  split
  · next rest =>
    rw [List.drop_succ_cons, List.cons_append,
      ← List.prefix_append_drop (List.takeWhile_prefix Char.isDigit)]
  · next hcs =>
    split at h
    · next rest => exact absurd rfl (hcs rest)
    · exact absurd rfl h

theorem isDigit_of_mem_fractionDigits {cs : List Char} {d : Char} (h : d ∈ fractionDigits cs) :
    d.isDigit = true := by
  unfold fractionDigits at h
  split at h
  · exact List.mem_takeWhile_imp h
  · simp at h

theorem chars_numeral {fraction : List Char} (h : fraction ≠ []) (whole : List Char) :
    (Token.numeral whole fraction).chars = whole ++ '.' :: fraction := by
  cases fraction with
  | nil => exact absurd rfl h
  | cons d ds => rfl

/-- **The token at the front of a text and the rest make up the text.** -/
theorem chars_next (cs : List Char) : (next cs).1.chars ++ (next cs).2 = cs := by
  simp only [next]
  split
  · next hfraction =>
    rw [chars_numeral hfraction, List.append_assoc, fractionDigits_append_drop hfraction,
      List.takeWhile_append_dropWhile]
  · split
    · exact List.takeWhile_append_dropWhile
    · exact List.takeWhile_append_dropWhile

theorem not_isBlank_of_mem_next {cs : List Char} {c : Char} (h : c ∈ (next cs).1.chars) :
    Text.isBlank c = false := by
  simp only [next] at h
  split at h
  · next hfraction =>
    rw [chars_numeral hfraction, List.mem_append, List.mem_cons] at h
    rcases h with h | rfl | h
    · exact not_isBlank_of_isDigit (List.mem_takeWhile_imp h)
    · decide
    · exact not_isBlank_of_isDigit (isDigit_of_mem_fractionDigits h)
  · split at h
    · exact not_isBlank_of_isDigit (List.mem_takeWhile_imp h)
    · simpa using List.mem_takeWhile_imp h

/-- **The tokens of a text are the text without its white space.** -/
theorem flatMap_chars_readAll (cs : List Char) :
    (readAll cs).flatMap chars = cs.filter fun c => !Text.isBlank c := by
  induction cs using readAll.induct with
  | case1 => simp [readAll]
  | case2 c rest hblank ih => rw [readAll, dif_pos hblank, ih]; simp [hblank]
  | case3 c rest hblank ih =>
    have hfront : (next (c :: rest)).1.chars.filter (fun c => !Text.isBlank c) =
        (next (c :: rest)).1.chars :=
      List.filter_eq_self.2 fun d hd => by simp [not_isBlank_of_mem_next hd]
    rw [readAll, dif_neg hblank, List.flatMap_cons, ih]
    rw [← congrArg (List.filter fun c => !Text.isBlank c) (chars_next (c :: rest)),
      List.filter_append, hfront]

theorem chars_ne_nil_of_mem_readAll {cs : List Char} {token : Token} (h : token ∈ readAll cs) :
    token.chars ≠ [] := by
  induction cs using readAll.induct with
  | case1 => simp [readAll] at h
  | case2 c rest hblank ih =>
    rw [readAll, dif_pos hblank] at h
    exact ih h
  | case3 c rest hblank ih =>
    rw [readAll, dif_neg hblank, List.mem_cons] at h
    rcases h with rfl | h
    · intro hnil
      have hlength := @length_next_lt c rest (by simpa using hblank)
      have happend := chars_next (c :: rest)
      rw [hnil, List.nil_append] at happend
      rw [happend] at hlength
      exact Nat.lt_irrefl _ hlength
    · exact ih h

end RecordQuery.Similarity.Token

import RecordQuery.Expression

/-!
# The spelling of tokens

White space may stand in front of every token and behind the last one, and nowhere inside a numeral.

* `Token.Spelling`: the characters of a token.  A numeral has at least one digit and at most one
  point.
* `Token.Spelled`: the texts of a list of tokens.
* `Token.spelled_of_readFrom?`: the tokens read from a text are spelled by it.
* `Token.readFrom?_of_spelled`: tokens that can be told apart in a text are read from it; two
  numerals in a row cannot.
-/

namespace RecordQuery

namespace Binary64

variable {ds es rest : List Char}

theorem spanDigits_append (hd : ∀ d ∈ ds, d.isDigit = true)
    (hrest : ∀ c ∈ rest.head?, c.isDigit = false) : spanDigits (ds ++ rest) = (ds, rest) := by
  rw [spanDigits, List.takeWhile_append_of_pos hd, List.dropWhile_append_of_pos hd]
  cases rest with
  | nil => rw [List.takeWhile_nil, List.append_nil, List.dropWhile_nil]
  | cons c rest =>
    have hc : ¬c.isDigit = true := by rw [hrest c rfl]; decide
    rw [List.takeWhile_cons_of_neg hc, List.append_nil, List.dropWhile_cons_of_neg hc]

theorem exists_digits_append (cs : List Char) : ∃ ds rest, cs = ds ++ rest ∧
    (∀ d ∈ ds, d.isDigit = true) ∧ ∀ c ∈ rest.head?, c.isDigit = false := by
  refine ⟨cs.takeWhile Char.isDigit, cs.dropWhile Char.isDigit,
    (List.takeWhile_append_dropWhile ..).symm,
    List.all_eq_true.mp List.all_takeWhile, fun c hc => ?_⟩
  have hfirst := List.head?_dropWhile_not Char.isDigit cs
  rw [hc] at hfirst
  simpa using hfirst

theorem readNumeral?_integer (hd : ∀ d ∈ ds, d.isDigit = true) :
    readNumeral? ds = if ds = [] then none else some ⟨digitsValue ds, 0⟩ := by
  have hspan := @spanDigits_append ds [] hd (by simp)
  rw [List.append_nil] at hspan
  simp [readNumeral?, hspan, readExponent?]

theorem readNumeral?_decimal (hd : ∀ d ∈ ds, d.isDigit = true)
    (he : ∀ d ∈ es, d.isDigit = true) (hrest : ∀ c ∈ rest.head?, c.isDigit = false) :
    readNumeral? (ds ++ '.' :: (es ++ rest)) =
      if ds ++ es = [] then none
      else (readExponent? rest).map fun e =>
        ⟨digitsValue (ds ++ es), e - (es.length : Int)⟩ := by
  have hpoint : ∀ c ∈ ('.' :: (es ++ rest)).head?, c.isDigit = false := by simp
  simp [readNumeral?, spanDigits_append hd hpoint, spanDigits_append he hrest]

end Binary64

namespace Expression.Token

/-- The characters of a token.  The value of a numeral is the double nearest to it. -/
inductive Spelling : Token → List Char → Prop
  | integer {ds : List Char} (hd : ∀ d ∈ ds, d.isDigit = true) (hne : ds ≠ []) :
    Spelling (.numeral (Binary64.nearest (Binary64.digitsValue ds) 0)) ds
  | decimal {ds es : List Char} (hd : ∀ d ∈ ds, d.isDigit = true)
    (he : ∀ d ∈ es, d.isDigit = true) (hne : ds ++ es ≠ []) :
    Spelling (.numeral (Binary64.nearest (Binary64.digitsValue (ds ++ es)) (-(es.length : Int))))
      (ds ++ '.' :: es)
  | mark (c : Char) : Spelling (.mark c) [c]

/-- The texts of a list of tokens, with white space around each of them. -/
inductive Spelled : List Token → List Char → Prop
  | done {blanks : List Char} (hb : ∀ c ∈ blanks, Text.isBlank c = true) : Spelled [] blanks
  | token {blanks lexeme cs : List Char} {token : Token} {tokens : List Token}
    (hb : ∀ c ∈ blanks, Text.isBlank c = true) (ht : token.Spelling lexeme)
    (h : Spelled tokens cs) : Spelled (token :: tokens) (blanks ++ (lexeme ++ cs))

variable {token : Token} {tokens : List Token} {pending cs : List Char} {c : Char} {x : Float}

/-! ### Numerals -/

theorem isNumeralChar_of_isDigit (h : c.isDigit = true) : isNumeralChar c = true := by
  rw [isNumeralChar, h, Bool.true_or]

theorem eq_point_of_isNumeralChar (h : isNumeralChar c = true) (hd : c.isDigit = false) :
    c = '.' := by
  rw [isNumeralChar, hd, Bool.false_or] at h
  exact eq_of_beq h

theorem isNumeralChar_of_isBlank (h : Text.isBlank c = true) : isNumeralChar c = false := by
  have hblanks : ∀ range ∈ Text.blanks, range.2 < 46 ∨ 57 < range.1 := by decide
  obtain ⟨range, hr, hc⟩ := List.any_eq_true.mp h
  have hout : ¬(46 ≤ c.toNat ∧ c.toNat ≤ 57) := by
    have := hblanks range hr
    simp only [Bool.and_eq_true, decide_eq_true_eq] at hc
    omega
  rw [isNumeralChar, Bool.or_eq_false_iff, ← Bool.not_eq_true, Char.isDigit, Bool.and_eq_true,
    decide_eq_true_eq, decide_eq_true_eq]
  refine ⟨fun ⟨hge, hle⟩ => hout ⟨?_, UInt32.le_iff_toNat_le.mp hle⟩,
    beq_false_of_ne fun he => hout (he ▸ by decide)⟩
  exact Nat.le_trans (by decide) (UInt32.le_iff_toNat_le.mp hge)

theorem ne_nil_of_spelling (h : Spelling token cs) : cs ≠ [] := by
  cases h with
  | integer _ hne => exact hne
  | decimal _ _ _ => simp
  | mark c => simp

theorem isNumeralChar_of_spelling (h : Spelling (.numeral x) cs) :
    ∀ c ∈ cs, isNumeralChar c = true := by
  intro c hc
  cases h with
  | integer hd hne => exact isNumeralChar_of_isDigit (hd c hc)
  | decimal hd he hne =>
    rw [List.mem_append, List.mem_cons] at hc
    rcases hc with hc | rfl | hc
    · exact isNumeralChar_of_isDigit (hd c hc)
    · rfl
    · exact isNumeralChar_of_isDigit (he c hc)

theorem numeral?_eq_some_iff (h : ∀ c ∈ cs, isNumeralChar c = true) :
    numeral? cs = some x ↔ Spelling (.numeral x) cs := by
  constructor
  · intro hx
    obtain ⟨ds, rest, rfl, hd, hrest⟩ := Binary64.exists_digits_append cs
    cases rest with
    | nil =>
      rw [List.append_nil] at hx ⊢
      rw [numeral?, Binary64.readNumeral?_integer hd] at hx
      split at hx
      · cases hx
      · next hne => cases hx; exact .integer hd hne
    | cons c rest =>
      obtain rfl := eq_point_of_isNumeralChar (h c (by simp)) (hrest c rfl)
      obtain ⟨es, rest, rfl, he, hrest⟩ := Binary64.exists_digits_append rest
      rw [numeral?, Binary64.readNumeral?_decimal hd he hrest] at hx
      split at hx
      · cases hx
      · next hne =>
        cases rest with
        | nil =>
          rw [Binary64.readExponent?, Option.map_some, Option.map_some, Option.some.injEq,
            Int.zero_sub] at hx
          rw [List.append_nil, ← hx]
          exact .decimal hd he hne
        | cons c rest =>
          -- behind the digits no exponent begins with a point
          obtain rfl := eq_point_of_isNumeralChar (h c (by simp)) (hrest c rfl)
          rw [Binary64.readExponent?, if_neg (by decide)] at hx
          cases hx
  · intro hx
    cases hx with
    | integer hd hne => rw [numeral?, Binary64.readNumeral?_integer hd, if_neg hne]; rfl
    | decimal hd he hne =>
      have hread := @Binary64.readNumeral?_decimal _ _ [] hd he (by simp)
      rw [List.append_nil, if_neg hne] at hread
      rw [numeral?, hread]
      simp [Binary64.readExponent?]

/-! ### The tokens of a text -/

theorem Spelled.of_blank (hc : Text.isBlank c = true) (h : Spelled tokens cs) :
    Spelled tokens (c :: cs) := by
  cases h with
  | done hb => exact .done (List.forall_mem_cons.mpr ⟨hc, hb⟩)
  | @token blanks lexeme cs token tokens hb ht h =>
    rw [← List.cons_append]
    exact .token (List.forall_mem_cons.mpr ⟨hc, hb⟩) ht h

theorem Spelled.of_mark (c : Char) (h : Spelled tokens cs) :
    Spelled (.mark c :: tokens) (c :: cs) :=
  .token (List.forall_mem_nil _) (.mark c) h

theorem spelled_of_putNumeral? {found : List Token} (hp : ∀ c ∈ pending, isNumeralChar c = true)
    (h : Spelled tokens cs) (hfound : putNumeral? pending tokens = some found) :
    Spelled found (pending ++ cs) := by
  rw [putNumeral?] at hfound
  split at hfound
  · next hnil =>
    cases hfound
    rw [hnil]
    exact h
  · obtain ⟨x, hx, rfl⟩ := Option.map_eq_some_iff.mp hfound
    exact .token (List.forall_mem_nil _) ((numeral?_eq_some_iff hp).mp hx) h

/-- **A text spells the tokens that are read from it.**  The characters of a numeral that has been
begun stand in front of the text. -/
theorem spelled_of_readFrom? : ∀ {cs pending : List Char} {tokens : List Token},
    (∀ c ∈ pending, isNumeralChar c = true) → readFrom? pending cs = some tokens →
      Spelled tokens (pending ++ cs) := by
  intro cs
  induction cs with
  | nil =>
    intro pending tokens hp h
    rw [readFrom?] at h
    exact spelled_of_putNumeral? hp (.done (List.forall_mem_nil _)) h
  | cons c cs ih =>
    intro pending tokens hp h
    rw [readFrom?] at h
    split at h
    · next hc =>
      rw [List.append_cons]
      exact ih (by simpa [or_imp, forall_and] using ⟨hp, hc⟩) h
    · obtain ⟨others, hothers, h⟩ := Option.bind_eq_some_iff.mp h
      have hspelled := ih (List.forall_mem_nil _) hothers
      refine spelled_of_putNumeral? hp ?_ h
      split
      · next hc => exact hspelled.of_blank hc
      · exact hspelled.of_mark c

/-! ### Reading what is spelled -/

/-- Tokens that can be told apart in a text: no numeral follows another, and no mark is white space
or a part of a numeral. -/
inductive Separable : List Token → Prop
  | nil : Separable []
  | mark {c : Char} {tokens : List Token} (hb : Text.isBlank c = false)
    (hn : isNumeralChar c = false) (h : Separable tokens) : Separable (.mark c :: tokens)
  | numeral (x : Float) {tokens : List Token} (hx : ∀ y, tokens.head? ≠ some (.numeral y))
    (h : Separable tokens) : Separable (.numeral x :: tokens)

theorem Separable.append_mark {others : List Token} (h : Separable tokens)
    (ho : Separable others) (hb : Text.isBlank c = false) (hn : isNumeralChar c = false) :
    Separable (tokens ++ .mark c :: others) := by
  induction h with
  | nil => exact .mark hb hn ho
  | mark hb hn _ ih => exact .mark hb hn ih
  | @numeral x tokens hx _ ih =>
    refine .numeral x (fun y hy => ?_) ih
    cases tokens with
    | nil => cases hy
    | cons token tokens => exact hx y hy

theorem readFrom?_blanks {blanks : List Char} (hb : ∀ c ∈ blanks, Text.isBlank c = true) :
    readFrom? [] (blanks ++ cs) = readFrom? [] cs := by
  induction blanks with
  | nil => rfl
  | cons c blanks ih =>
    obtain ⟨hc, hb⟩ := List.forall_mem_cons.mp hb
    rw [List.cons_append, readFrom?, isNumeralChar_of_isBlank hc, ih hb, hc]
    cases readFrom? [] cs <;> rfl

theorem readFrom?_mark (hb : Text.isBlank c = false) (hn : isNumeralChar c = false) :
    readFrom? [] (c :: cs) = (readFrom? [] cs).map (.mark c :: ·) := by
  rw [readFrom?, hb, hn]
  cases readFrom? [] cs <;> rfl

theorem readFrom?_numeralChars {lexeme : List Char}
    (hl : ∀ c ∈ lexeme, isNumeralChar c = true) :
    readFrom? pending (lexeme ++ cs) = readFrom? (pending ++ lexeme) cs := by
  induction lexeme generalizing pending with
  | nil => rw [List.nil_append, List.append_nil]
  | cons c lexeme ih =>
    obtain ⟨hc, hl⟩ := List.forall_mem_cons.mp hl
    rw [List.cons_append, readFrom?, if_pos hc, ih hl, ← List.append_cons]

/-- A numeral ends where the text goes on with none. -/
theorem readFrom?_pending (hcs : ∀ c ∈ cs.head?, isNumeralChar c = false) :
    readFrom? pending cs = (readFrom? [] cs).bind (putNumeral? pending) := by
  cases cs with
  | nil => rfl
  | cons c cs =>
    rw [readFrom?, readFrom?, hcs c rfl]
    cases readFrom? [] cs <;> rfl

theorem readFrom?_lexeme {lexeme : List Char} (ht : Spelling (.numeral x) lexeme)
    (hcs : ∀ c ∈ cs.head?, isNumeralChar c = false) :
    readFrom? [] (lexeme ++ cs) = (readFrom? [] cs).map (.numeral x :: ·) := by
  have hchars := isNumeralChar_of_spelling ht
  have hput : ∀ tokens, putNumeral? lexeme tokens = some (.numeral x :: tokens) := fun tokens => by
    rw [putNumeral?, if_neg (ne_nil_of_spelling ht), (numeral?_eq_some_iff hchars).mpr ht,
      Option.map_some]
  rw [readFrom?_numeralChars hchars, List.nil_append, readFrom?_pending hcs, Option.map_eq_bind]
  exact Option.bind_congr fun tokens _ => hput tokens

theorem Separable.head?_of_spelled (h : Separable tokens)
    (hx : ∀ y, tokens.head? ≠ some (.numeral y)) (hcs : Spelled tokens cs) :
    ∀ c ∈ cs.head?, isNumeralChar c = false := by
  intro c hc
  cases hcs with
  | done hb => exact isNumeralChar_of_isBlank (hb c (List.mem_of_mem_head? hc))
  | @token blanks lexeme cs token tokens hb ht _ =>
    cases blanks with
    | cons blank blanks =>
      cases hc
      exact isNumeralChar_of_isBlank (hb _ List.mem_cons_self)
    | nil =>
      cases h with
      | mark _ hn _ => cases ht; cases hc; exact hn
      | numeral x _ _ => exact absurd rfl (hx x)

/-- **Tokens that can be told apart are read from every text that spells them.** -/
theorem readFrom?_of_spelled (h : Separable tokens) :
    ∀ {cs : List Char}, Spelled tokens cs → readFrom? [] cs = some tokens := by
  induction h with
  | nil =>
    rintro cs ⟨hb⟩
    have hread := @readFrom?_blanks [] _ hb
    rw [List.append_nil] at hread
    exact hread
  | mark hb hn _ ih =>
    intro cs hcs
    cases hcs with
    | token hblanks ht h =>
      cases ht
      rw [readFrom?_blanks hblanks, List.singleton_append, readFrom?_mark hb hn, ih h]
      rfl
  | numeral x hx hs ih =>
    intro cs hcs
    cases hcs with
    | token hblanks ht h =>
      rw [readFrom?_blanks hblanks, readFrom?_lexeme ht (hs.head?_of_spelled hx h), ih h]
      rfl

end Expression.Token

end RecordQuery

import RecordQuery.Proofs.Similarity.Spacing

/-!
# Tokens as leftmost matches

A text is scanned for the pattern `[0-9]*\.[0-9]+|[0-9]+|\S+`.  Of the ways in which a pattern fits
the front of a text, the first in the order of alternatives counts, and a repetition tries more
characters before fewer.  The pattern fits wherever there is no white space, so that the scan loses
nothing else.

* `Form`, `Form.rests`: patterns, and what is left behind each way of matching, the preferred one
  first.
* `Form.Finds`: the matches of a scan from left to right.
* `head?_rests_token`: the preferred match at the front of a text is its first token.
* `Finds.unique`: a scan has one result.
* `Token.readAll_lossless`: the tokens of a text are what the scan finds, they are the text without
  its white space, and white space between two texts keeps their tokens apart.
-/

namespace RecordQuery.Similarity

/-- A pattern of characters. -/
inductive Form where
  | empty
  | one (test : Char → Bool)
  /-- Any number of characters, as many as possible. -/
  | many (test : Char → Bool)
  | seq (a b : Form)
  /-- Two alternatives, the first one preferred. -/
  | either (a b : Form)

namespace Form

/-- What is left behind a run of characters, the longest run first. -/
def stops (test : Char → Bool) : List Char → List (List Char)
  | [] => [[]]
  | c :: cs => if test c then stops test cs ++ [c :: cs] else [c :: cs]

/-- What is left behind each match at the front of a text, the preferred one first. -/
def rests : Form → List Char → List (List Char)
  | .empty, cs => [cs]
  | .one _, [] => []
  | .one test, c :: cs => if test c then [cs] else []
  | .many test, cs => stops test cs
  | .seq a b, cs => (a.rests cs).flatMap b.rests
  | .either a b, cs => a.rests cs ++ b.rests cs

/-- One character or more, as many as possible. -/
def oneOrMore (test : Char → Bool) : Form := .seq (.one test) (.many test)

/-- The form `[0-9]+`. -/
def digits : Form := oneOrMore Char.isDigit

/-- The form `\.[0-9]+`. -/
def fraction : Form := .seq (.one (· == '.')) digits

/-- The form `[0-9]*\.[0-9]+`. -/
def decimal : Form := .seq (.many Char.isDigit) fraction

/-- The form `\S+`. -/
def run : Form := oneOrMore fun c => !Text.isBlank c

/-- The form of a token: a decimal, or else digits, or else a run. -/
def token : Form := .either decimal (.either digits run)

/-- The matches of a form in a text from left to right, for forms that do not match the empty text:
the preferred match at a place is taken, and a place without one is passed over. -/
inductive Finds (form : Form) : List Char → List (List Char) → Prop
  | nil (h : form.rests [] = []) : Finds form [] []
  | skip {c : Char} {cs : List Char} {found : List (List Char)} (h : form.rests (c :: cs) = [])
      (rest : Finds form cs found) : Finds form (c :: cs) found
  | take {cs front behind : List Char} {found : List (List Char)} (hcs : front ++ behind = cs)
      (hne : front ≠ []) (h : (form.rests cs).head? = some behind)
      (rest : Finds form behind found) : Finds form cs (front :: found)

/-! ### Runs of characters -/

variable {test : Char → Bool}

theorem head?_stops (test : Char → Bool) (cs : List Char) :
    (stops test cs).head? = some (cs.dropWhile test) := by
  induction cs with
  | nil => rfl
  | cons c cs ih =>
    rw [stops, List.dropWhile_cons]
    split
    · rw [List.head?_append, ih, Option.some_or]
    · rfl

/-- What cannot follow in the middle of a run can only follow its end. -/
theorem flatMap_stops {next : List Char → List (List Char)}
    (h : ∀ c cs, test c = true → next (c :: cs) = []) (cs : List Char) :
    (stops test cs).flatMap next = next (cs.dropWhile test) := by
  induction cs with
  | nil => simp [stops]
  | cons c cs ih =>
    rw [stops, List.dropWhile_cons]
    split
    · next hc => simp [ih, h c cs hc]
    · simp

theorem drop_length_takeWhile (test : Char → Bool) (cs : List Char) :
    cs.drop (cs.takeWhile test).length = cs.dropWhile test := by
  have hparts := List.prefix_append_drop (List.takeWhile_prefix (l := cs) test)
  exact List.append_cancel_left (hparts.symm.trans List.takeWhile_append_dropWhile.symm)

theorem head?_rests_oneOrMore (test : Char → Bool) (cs : List Char) :
    ((oneOrMore test).rests cs).head? =
      if cs.takeWhile test = [] then none else some (cs.dropWhile test) := by
  cases cs with
  | nil => rfl
  | cons c cs =>
    by_cases hc : test c = true
    · simp [oneOrMore, rests, hc, head?_stops]
    · simp [oneOrMore, rests, hc]

/-! ### The parts of a token -/

theorem rests_fraction_of_ne {c : Char} (h : c ≠ '.') (cs : List Char) :
    fraction.rests (c :: cs) = [] := by
  simp [fraction, rests, h]

theorem rests_fraction_point (cs : List Char) : fraction.rests ('.' :: cs) = digits.rests cs := by
  simp [fraction, rests]

theorem rests_decimal (cs : List Char) :
    decimal.rests cs = fraction.rests (cs.dropWhile Char.isDigit) := by
  rw [decimal, rests, rests]
  refine flatMap_stops (fun c cs hc => rests_fraction_of_ne ?_ cs) cs
  rintro rfl
  exact absurd hc (by decide)

theorem head?_rests_fraction (cs : List Char) :
    (fraction.rests cs).head? =
      if Token.fractionDigits cs = [] then none
      else some (cs.drop ((Token.fractionDigits cs).length + 1)) := by
  cases cs with
  | nil => rfl
  | cons c cs =>
    by_cases hc : c = '.'
    · subst hc
      rw [rests_fraction_point, digits, head?_rests_oneOrMore]
      change _ = if cs.takeWhile Char.isDigit = [] then none
        else some (cs.drop (cs.takeWhile Char.isDigit).length)
      rw [drop_length_takeWhile]
    · rw [rests_fraction_of_ne hc, Token.fractionDigits_of_ne hc]
      rfl

end Form

/-! ### The token at the front of a text -/

namespace Token

variable {cs : List Char}

theorem next_of_fraction (h : fractionDigits (cs.dropWhile Char.isDigit) ≠ []) :
    next cs = (.numeral (cs.takeWhile Char.isDigit) (fractionDigits (cs.dropWhile Char.isDigit)),
      (cs.dropWhile Char.isDigit).drop
        ((fractionDigits (cs.dropWhile Char.isDigit)).length + 1)) :=
  if_pos h

theorem next_of_whole (h : fractionDigits (cs.dropWhile Char.isDigit) = [])
    (hwhole : cs.takeWhile Char.isDigit ≠ []) :
    next cs = (.numeral (cs.takeWhile Char.isDigit) [], cs.dropWhile Char.isDigit) :=
  (if_neg (not_not_intro h)).trans (if_pos hwhole)

theorem next_of_word (h : fractionDigits (cs.dropWhile Char.isDigit) = [])
    (hwhole : cs.takeWhile Char.isDigit = []) :
    next cs = (.word (cs.takeWhile fun c => !Text.isBlank c),
      cs.dropWhile fun c => !Text.isBlank c) :=
  (if_neg (not_not_intro h)).trans (if_neg (not_not_intro hwhole))

end Token

namespace Form

theorem rests_token_nil : token.rests [] = [] := rfl

theorem rests_token_of_isBlank {c : Char} (h : Text.isBlank c = true) (cs : List Char) :
    token.rests (c :: cs) = [] := by
  have hdigit := Token.isDigit_eq_false_of_isBlank h
  have hpoint : c ≠ '.' := by rintro rfl; exact absurd h (by decide)
  have hdecimal : decimal.rests (c :: cs) = [] := by
    rw [rests_decimal, List.dropWhile_cons_of_neg (by simp [hdigit]), rests_fraction_of_ne hpoint]
  simp [token, rests, hdecimal, digits, run, oneOrMore, hdigit, h]

/-- **The preferred match at a place without white space is the first token.** -/
theorem head?_rests_token {c : Char} (h : Text.isBlank c = false) (cs : List Char) :
    (token.rests (c :: cs)).head? = some (Token.next (c :: cs)).2 := by
  have hrun : (c :: cs).takeWhile (fun c => !Text.isBlank c) ≠ [] := by simp [h]
  rw [token, rests, rests, List.head?_append, List.head?_append, rests_decimal,
    head?_rests_fraction, digits, head?_rests_oneOrMore, run, head?_rests_oneOrMore, if_neg hrun]
  by_cases hfraction : Token.fractionDigits ((c :: cs).dropWhile Char.isDigit) = []
  · rw [if_pos hfraction, Option.none_or]
    by_cases hwhole : (c :: cs).takeWhile Char.isDigit = []
    · rw [if_pos hwhole, Option.none_or, Token.next_of_word hfraction hwhole]
    · rw [if_neg hwhole, Option.some_or, Token.next_of_whole hfraction hwhole]
  · rw [if_neg hfraction, Option.some_or, Token.next_of_fraction hfraction]

/-! ### Scans -/

/-- **A scan has one result.** -/
theorem Finds.unique {form : Form} {cs : List Char} {found others : List (List Char)}
    (h : form.Finds cs found) (h' : form.Finds cs others) : found = others := by
  induction h generalizing others with
  | nil hnone =>
    cases h' with
    | nil => rfl
    | take _ _ hhead => rw [hnone] at hhead; cases hhead
  | skip hnone _ ih =>
    cases h' with
    | skip _ rest => exact ih rest
    | take _ _ hhead => rw [hnone] at hhead; cases hhead
  | take hcs _ hhead _ ih =>
    cases h' with
    | nil hnone => rw [hnone] at hhead; cases hhead
    | skip hnone => rw [hnone] at hhead; cases hhead
    | take hcs' _ hhead' rest' =>
      obtain rfl := Option.some.inj (hhead.symm.trans hhead')
      rw [List.append_cancel_right (hcs.trans hcs'.symm), ih rest']

/-- The tokens of a text are found one after the other. -/
theorem finds_readAll (cs : List Char) : token.Finds cs ((Token.readAll cs).map Token.chars) := by
  induction cs using Token.readAll.induct with
  | case1 =>
    rw [Token.readAll_nil]
    exact .nil rests_token_nil
  | case2 c rest hblank ih =>
    rw [Token.readAll_of_isBlank hblank]
    exact .skip (rests_token_of_isBlank hblank rest) ih
  | case3 c rest hblank ih =>
    have hfirst : (Token.next (c :: rest)).1 ∈ Token.readAll (c :: rest) := by
      rw [Token.readAll_of_not_isBlank hblank]
      exact List.mem_cons_self
    rw [Token.readAll_of_not_isBlank hblank, List.map_cons]
    exact .take (Token.chars_next _) (Token.chars_ne_nil_of_mem_readAll hfirst)
      (head?_rests_token (by simpa using hblank) rest) ih

end Form

namespace Token

theorem not_isBlank_of_mem_readAll {cs : List Char} {token : Token} (h : token ∈ readAll cs)
    {c : Char} (hc : c ∈ token.chars) : Text.isBlank c = false := by
  have hmem : c ∈ (readAll cs).flatMap chars := List.mem_flatMap.mpr ⟨token, h, hc⟩
  rw [flatMap_chars_readAll, List.mem_filter] at hmem
  simpa using hmem.2

theorem foldr_length_append (tokens others : List Token) :
    (tokens ++ others).foldr (fun token n => token.length + n) 0 =
      tokens.foldr (fun token n => token.length + n) 0 +
        others.foldr (fun token n => token.length + n) 0 := by
  induction tokens with
  | nil => rw [List.nil_append, List.foldr_nil, Nat.zero_add]
  | cons token tokens ih =>
    rw [List.cons_append, List.foldr_cons, List.foldr_cons, ih, Nat.add_assoc]

/--
**Nothing but white space is lost between the tokens of a text.**  They are the leftmost matches of
their form, one after the other; each has characters and none that is white space, and together they
are the text without its white space.  White space between two texts keeps the tokens of the one and
of the other apart, and the lengths add up.
-/
theorem readAll_lossless (text : String) :
    (∀ found, Form.token.Finds text.toList found ↔ found = (readAll text.toList).map chars) ∧
      (∀ token ∈ readAll text.toList,
        token.chars ≠ [] ∧ ∀ c ∈ token.chars, Text.isBlank c = false) ∧
      (readAll text.toList).flatMap chars = text.toList.filter (fun c => !Text.isBlank c) ∧
      ∀ (blank : Char) (other : String), Text.isBlank blank = true →
        readAll (text.push blank ++ other).toList =
            readAll text.toList ++ readAll other.toList ∧
          effectiveLength (text.push blank ++ other) =
            effectiveLength text + effectiveLength other := by
  refine ⟨fun found => ⟨fun h => h.unique (Form.finds_readAll _), ?_⟩, fun token htoken => ?_,
    flatMap_chars_readAll _, fun blank other hblank => ?_⟩
  · rintro rfl
    exact Form.finds_readAll _
  · exact ⟨chars_ne_nil_of_mem_readAll htoken, fun c hc => not_isBlank_of_mem_readAll htoken hc⟩
  · have htokens : readAll (text.push blank ++ other).toList =
        readAll text.toList ++ readAll other.toList := by
      rw [String.toList_append, String.toList_push, List.append_assoc, List.singleton_append,
        readAll_append_blank hblank]
    refine ⟨htokens, ?_⟩
    rw [effectiveLength, htokens, foldr_length_append, ← effectiveLength, ← effectiveLength]

/-- A text in which digits, points and letters stand without white space between them. -/
theorem readAll_lossless_mixed :
    let text := "a.5 1.2.3x"
    readAll text.toList =
        [.word ['a', '.', '5'], .numeral ['1'] ['2'], .numeral [] ['3'], .word ['x']] ∧
      Form.token.Finds text.toList [['a', '.', '5'], ['1', '.', '2'], ['.', '3'], ['x']] ∧
      (Token.numeral [] ['3']).chars ≠ [] ∧
      (∀ c ∈ (Token.numeral [] ['3']).chars, Text.isBlank c = false) ∧
      Text.isBlank '\t' = true ∧
      readAll (text.push '\t' ++ "4").toList = readAll text.toList ++ readAll "4".toList ∧
      effectiveLength (text.push '\t' ++ "4") = effectiveLength text + effectiveLength "4" := by
  intro text
  have htokens : readAll text.toList =
      [.word ['a', '.', '5'], .numeral ['1'] ['2'], .numeral [] ['3'], .word ['x']] := by
    decide +kernel
  obtain ⟨hfinds, htoken, -, happend⟩ := readAll_lossless text
  have hlast := htoken (.numeral [] ['3']) (by rw [htokens]; decide)
  exact ⟨htokens, (hfinds _).mpr (by rw [htokens]; rfl), hlast.1, hlast.2, by decide,
    happend '\t' "4" (by decide)⟩

end Token

end RecordQuery.Similarity
